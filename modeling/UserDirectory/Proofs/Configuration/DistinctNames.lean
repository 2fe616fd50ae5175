import Mathlib.Data.List.Nodup
import UserDirectory.Configuration.Toml.Document

/-!
No table of a TOML document has two members of one name, however deep it lies. Headers and keys put
a member into a table only through `Node.put`, which gives a name that is there already its new
member, so what a line makes of a document without such a pair is without one again.
-/

namespace UserDirectory.Configuration

theorem mem_of_lookup {β : Type} {members : List (String × β)} {name : String} {member : β}
    (found : members.lookup name = some member) : (name, member) ∈ members := by
  obtain ⟨front, back, rfl, -⟩ := List.lookup_eq_some_iff.1 found
  exact List.mem_append_right front List.mem_cons_self

/-- No table within the tree has two members of one name. -/
inductive Tree.Distinct : Tree → Prop
  | intro {tree : Tree} (names : (tree.members.map Prod.fst).Nodup)
    (members : ∀ entry ∈ tree.members, Distinct entry.2)
    (items : ∀ item ∈ tree.items, Distinct item) : Distinct tree

theorem Tree.Distinct.names {tree : Tree} (distinct : tree.Distinct) :
    (tree.members.map Prod.fst).Nodup := by
  cases distinct with
  | intro names => exact names

theorem Tree.Distinct.member {tree member : Tree} (distinct : tree.Distinct) {name : String}
    (found : tree.member? name = some member) : member.Distinct := by
  cases distinct with
  | intro _ members => exact members (name, member) (mem_of_lookup found)

theorem Tree.Distinct.ofScalar {tree : Tree} (members : tree.members = [])
    (items : tree.items = []) : tree.Distinct := by
  refine ⟨?_, ?_, ?_⟩
  · rw [members]
    exact List.nodup_nil
  · rw [members]
    exact List.forall_mem_nil _
  · rw [items]
    exact List.forall_mem_nil _

theorem Tree.Distinct.ofItems {items : List Tree} (each : ∀ item ∈ items, item.Distinct) :
    (Tree.list items).Distinct :=
  ⟨List.nodup_nil, List.forall_mem_nil _, each⟩

namespace Toml

namespace Node

inductive Distinct : Node → Prop
  | value {tree : Tree} (distinct : tree.Distinct) : Distinct (.value tree)
  | table {shape : Shape} {members : List (String × Node)} (names : (members.map Prod.fst).Nodup)
    (each : ∀ entry ∈ members, Distinct entry.2) : Distinct (.table shape members)
  | tables {items : List Node} (each : ∀ item ∈ items, Distinct item) : Distinct (.tables items)

theorem memberTrees_eq (members : List (String × Node)) :
    memberTrees members = members.map fun entry => (entry.1, entry.2.tree) := by
  induction members with
  | nil => rfl
  | cons entry rest ih => rw [memberTrees, ih, List.map_cons]

theorem itemTrees_eq (items : List Node) : itemTrees items = items.map tree := by
  induction items with
  | nil => rfl
  | cons item rest ih => rw [itemTrees, ih, List.map_cons]

theorem Distinct.tree {node : Node} (distinct : node.Distinct) : node.tree.Distinct := by
  induction distinct with
  | value distinct => exact distinct
  | table names _ ih =>
    rw [Node.tree, memberTrees_eq]
    refine ⟨?_, ?_, List.forall_mem_nil _⟩
    · rw [Tree.members, List.map_map]
      exact names
    · exact List.forall_mem_map.2 ih
  | tables _ ih =>
    rw [Node.tree, itemTrees_eq]
    exact .ofItems (List.forall_mem_map.2 ih)

theorem Distinct.empty (shape : Shape) : (Node.empty shape).Distinct :=
  .table List.nodup_nil (List.forall_mem_nil _)

section Put

variable {owner : Node}

theorem Distinct.names (distinct : owner.Distinct) : (owner.members.map Prod.fst).Nodup := by
  cases distinct with
  | value | tables => exact List.nodup_nil
  | table names => exact names

theorem Distinct.each (distinct : owner.Distinct) : ∀ entry ∈ owner.members, entry.2.Distinct := by
  cases distinct with
  | value | tables => exact List.forall_mem_nil _
  | table _ each => exact each

theorem Distinct.member (distinct : owner.Distinct) {name : String} {node : Node}
    (found : owner.members.lookup name = some node) : node.Distinct :=
  distinct.each (name, node) (mem_of_lookup found)

theorem Distinct.put (distinct : owner.Distinct) (name : String) {node : Node}
    (added : node.Distinct) : (owner.put name node).Distinct := by
  rw [Node.put]
  split
  next =>
    refine .table ?_ (List.forall_mem_map.2 fun entry present => ?_)
    · rw [List.map_map, List.map_congr_left (g := Prod.fst)]
      · exact distinct.names
      · rintro ⟨key, old⟩ -
        change (ite _ _ _ : String × Node).1 = key
        split <;> rfl
    · obtain ⟨key, old⟩ := entry
      change (ite _ _ _ : String × Node).2.Distinct
      split
      next => exact added
      next => exact distinct.each (key, old) present
  next absent =>
    refine .table ?_ ?_
    · have fresh : name ∉ owner.members.map Prod.fst := by
        intro present
        obtain ⟨entry, here, rfl⟩ := List.mem_map.1 present
        exact absent (List.lookup_isSome_iff.2 ⟨entry, here, beq_self_eq_true _⟩)
      rw [List.map_append, List.nodup_append']
      exact ⟨distinct.names, List.nodup_singleton name,
        List.disjoint_singleton.2 fresh⟩
    · exact List.forall_mem_append.2 ⟨distinct.each, List.forall_mem_singleton.2 added⟩

end Put

/-- A change that keeps names distinct keeps them so where it is made at the end of a path. -/
theorem Distinct.within {change : Node → Option Node}
    (keeps : ∀ {owner changed : Node}, owner.Distinct → change owner = some changed →
      changed.Distinct) (dotted : Bool) :
    ∀ (path : List String) {owner changed : Node}, owner.Distinct →
      Node.within dotted path change owner = some changed → changed.Distinct
  | [], _, _, distinct, made => keeps distinct made
  | key :: rest, owner, changed, distinct, made => by
    rw [Node.within] at made
    split at made
    next =>
      obtain ⟨node, inside, rfl⟩ := Option.map_eq_some_iff.1 made
      exact distinct.put key (within keeps dotted rest (.empty _) inside)
    next => cases made
    next items found =>
      obtain ⟨last, atEnd, made⟩ := Option.bind_eq_some_iff.1 made
      obtain ⟨node, inside, made⟩ := Option.bind_eq_some_iff.1 made
      obtain rfl := Option.some.inj made
      cases distinct.member found with
      | tables each =>
        have changed := within keeps dotted rest (each last (List.mem_of_getLast? atEnd)) inside
        refine distinct.put key (.tables (List.forall_mem_append.2 ⟨fun item present => ?_,
          List.forall_mem_singleton.2 changed⟩))
        exact each item ((List.dropLast_subset items present))
    next shape members found =>
      split at made
      next => cases made
      next =>
        obtain ⟨node, inside, rfl⟩ := Option.map_eq_some_iff.1 made
        exact distinct.put key (within keeps dotted rest (distinct.member found) inside)

theorem Distinct.assign {owner changed : Node} (distinct : owner.Distinct) {path : List String}
    {key : String} {tree : Tree} (value : tree.Distinct)
    (made : Node.assign path key tree owner = some changed) : changed.Distinct := by
  refine Distinct.within (fun {owner changed} distinct made => ?_) true path distinct made
  split at made
  next => cases made
  next =>
    split at made
    next => cases made
    next =>
      obtain rfl := Option.some.inj made
      exact distinct.put key (.value value)

theorem Distinct.openTable {owner changed : Node} (distinct : owner.Distinct) {path : List String}
    {key : String} (made : Node.openTable path key owner = some changed) : changed.Distinct := by
  refine Distinct.within (fun {owner changed} distinct made => ?_) false path distinct made
  split at made
  next =>
    obtain rfl := Option.some.inj made
    exact distinct.put key (.empty _)
  next members found =>
    obtain rfl := Option.some.inj made
    cases distinct.member found with
    | table names each => exact distinct.put key (.table names each)
  next => cases made

theorem Distinct.openItem {owner changed : Node} (distinct : owner.Distinct) {path : List String}
    {key : String} (made : Node.openItem path key owner = some changed) : changed.Distinct := by
  refine Distinct.within (fun {owner changed} distinct made => ?_) false path distinct made
  have one : ∀ item ∈ [Node.empty .explicit], item.Distinct :=
    List.forall_mem_singleton.2 (.empty _)
  split at made
  next =>
    obtain rfl := Option.some.inj made
    exact distinct.put key (.tables one)
  next items found =>
    obtain rfl := Option.some.inj made
    cases distinct.member found with
    | tables each => exact distinct.put key (.tables (List.forall_mem_append.2 ⟨each, one⟩))
  next => cases made

end Node

theorem distinct_of_decimal? {word : List Char} {tree : Tree} (read : decimal? word = some tree) :
    tree.Distinct := by
  have plain (value : Float) : (Tree.decimal value).Distinct := .ofScalar rfl rfl
  have bounded {refused : Bool} {value : Float}
      (read : (if refused = true then none else some (Tree.decimal value)) = some tree) :
      tree.Distinct := by
    split at read
    next => cases read
    next =>
      obtain rfl := Option.some.inj read
      exact plain value
  unfold decimal? at read
  dsimp only at read
  split at read
  next =>
    obtain rfl := Option.some.inj read
    exact plain _
  next =>
    split at read
    next =>
      obtain rfl := Option.some.inj read
      exact plain _
    next =>
      obtain ⟨exponent, -, read⟩ := Option.bind_eq_some_iff.1 read
      split at read
      next =>
        split at read
        next => cases read
        next =>
          obtain ⟨parts, -, read⟩ := Option.bind_eq_some_iff.1 read
          obtain ⟨found, -, read⟩ := Option.bind_eq_some_iff.1 read
          exact bounded read
      next =>
        obtain ⟨parts, -, read⟩ := Option.bind_eq_some_iff.1 read
        obtain ⟨found, -, read⟩ := Option.bind_eq_some_iff.1 read
        exact bounded read

theorem distinct_of_scalar? {word : List Char} {tree : Tree} (read : scalar? word = some tree) :
    tree.Distinct := by
  rw [scalar?] at read
  split at read
  next =>
    obtain rfl := Option.some.inj read
    exact .ofScalar rfl rfl
  next =>
    split at read
    next =>
      obtain rfl := Option.some.inj read
      exact .ofScalar rfl rfl
    next =>
      simp only [Option.orElse_eq_orElse, Option.orElse_eq_or, Option.or_eq_some_iff] at read
      obtain moment | ⟨-, whole | ⟨-, decimal⟩⟩ := read
      · obtain ⟨written, -, rfl⟩ := Option.map_eq_some_iff.1 moment
        exact .ofScalar rfl rfl
      · obtain ⟨value, -, rfl⟩ := Option.map_eq_some_iff.1 whole
        exact .ofScalar rfl rfl
      · exact distinct_of_decimal? decimal

theorem distinct_of_readScalar? {text rest : List Char} {tree : Tree}
    (read : readScalar? text = some (tree, rest)) : tree.Distinct := by
  have taken {word after : List Char} (read : (scalar? word).map (·, after) = some (tree, rest)) :
      tree.Distinct := by
    obtain ⟨found, scalar, same⟩ := Option.map_eq_some_iff.1 read
    obtain ⟨rfl, -⟩ := Prod.mk.inj same
    exact distinct_of_scalar? scalar
  unfold readScalar? at read
  dsimp only at read
  split at read
  next =>
    split at read
    next => exact taken read
    next => exact taken read
  next => exact taken read

section Values

variable {value : Reader Tree}

def GivesDistinct (value : Reader Tree) : Prop :=
  ∀ {text rest : List Char} {tree : Tree}, value text = some (tree, rest) → tree.Distinct

theorem distinct_of_readItems? (gives : GivesDistinct value) {fuel : Nat}
    {text rest : List Char} {items : List Tree}
    (read : readItems? value fuel text = some (items, rest)) : ∀ item ∈ items, item.Distinct := by
  induction fuel generalizing text items rest with
  | zero => cases read
  | succ fuel ih =>
    rw [readItems?] at read
    split at read
    next =>
      obtain ⟨rfl, -⟩ := Prod.mk.inj (Option.some.inj read)
      exact List.forall_mem_nil _
    next =>
      obtain ⟨⟨item, after⟩, first, read⟩ := Option.bind_eq_some_iff.1 read
      dsimp only at read
      split at read
      next =>
        obtain ⟨⟨others, last⟩, more, read⟩ := Option.bind_eq_some_iff.1 read
        obtain ⟨rfl, -⟩ := Prod.mk.inj (Option.some.inj read)
        exact List.forall_mem_cons.2 ⟨gives first, ih more⟩
      next =>
        obtain ⟨rfl, -⟩ := Prod.mk.inj (Option.some.inj read)
        exact List.forall_mem_singleton.2 (gives first)
      next => cases read

theorem distinct_of_readPair? (gives : GivesDistinct value) {text rest : List Char}
    {pair : List String × Tree} (read : readPair? value text = some (pair, rest)) :
    pair.2.Distinct := by
  rw [readPair?] at read
  obtain ⟨⟨key, after⟩, -, read⟩ := Option.bind_eq_some_iff.1 read
  dsimp only at read
  split at read
  next =>
    obtain ⟨⟨tree, last⟩, found, read⟩ := Option.bind_eq_some_iff.1 read
    obtain ⟨rfl, -⟩ := Prod.mk.inj (Option.some.inj read)
    exact gives found
  next => cases read

theorem distinct_of_readPairs? (gives : GivesDistinct value) {fuel : Nat} {text rest : List Char}
    {pairs : List (List String × Tree)} (read : readPairs? value fuel text = some (pairs, rest)) :
    ∀ pair ∈ pairs, pair.2.Distinct := by
  induction fuel generalizing text pairs rest with
  | zero => cases read
  | succ fuel ih =>
    rw [readPairs?] at read
    obtain ⟨⟨pair, after⟩, first, read⟩ := Option.bind_eq_some_iff.1 read
    have distinct := distinct_of_readPair? gives first
    dsimp only at read
    split at read
    next =>
      obtain ⟨⟨others, last⟩, more, read⟩ := Option.bind_eq_some_iff.1 read
      obtain ⟨rfl, -⟩ := Prod.mk.inj (Option.some.inj read)
      exact List.forall_mem_cons.2 ⟨distinct, ih more⟩
    next =>
      obtain ⟨rfl, -⟩ := Prod.mk.inj (Option.some.inj read)
      exact List.forall_mem_singleton.2 distinct
    next => cases read

theorem Node.Distinct.assignPair {owner changed : Node} (distinct : owner.Distinct)
    {pair : List String × Tree} (value : pair.2.Distinct)
    (made : Toml.assignPair owner pair = some changed) : changed.Distinct := by
  obtain ⟨key, -, made⟩ := Option.bind_eq_some_iff.1 made
  exact distinct.assign value made

theorem Node.Distinct.assignPairs {pairs : List (List String × Tree)} {owner changed : Node}
    (distinct : owner.Distinct) (values : ∀ pair ∈ pairs, pair.2.Distinct)
    (made : pairs.foldlM Toml.assignPair owner = some changed) : changed.Distinct := by
  induction pairs generalizing owner with
  | nil =>
    obtain rfl := Option.some.inj made
    exact distinct
  | cons pair rest ih =>
    obtain ⟨value, values⟩ := List.forall_mem_cons.1 values
    rw [List.foldlM_cons] at made
    obtain ⟨next, first, made⟩ := Option.bind_eq_some_iff.1 made
    exact ih (distinct.assignPair value first) values made

theorem distinct_of_readTable? (gives : GivesDistinct value) {text rest : List Char} {tree : Tree}
    (read : readTable? value text = some (tree, rest)) : tree.Distinct := by
  rw [readTable?] at read
  split at read
  next =>
    obtain ⟨rfl, -⟩ := Prod.mk.inj (Option.some.inj read)
    exact ⟨List.nodup_nil, List.forall_mem_nil _, List.forall_mem_nil _⟩
  next =>
    obtain ⟨⟨pairs, after⟩, listed, read⟩ := Option.bind_eq_some_iff.1 read
    obtain ⟨table, made, read⟩ := Option.bind_eq_some_iff.1 read
    obtain ⟨rfl, -⟩ := Prod.mk.inj (Option.some.inj read)
    exact ((Node.Distinct.empty _).assignPairs (distinct_of_readPairs? gives listed) made).tree

end Values

/-- By induction on the lists and tables that may lie around the parts of a value. -/
theorem readValue?_givesDistinct (depth : Nat) : GivesDistinct (readValue? depth) := by
  induction depth using Nat.strongRecOn with
  | ind depth ih =>
    intro text rest tree read
    have string {read? : Option (String × List Char)}
        (read : (read?.map fun found => (Tree.text found.1, found.2)) = some (tree, rest)) :
        tree.Distinct := by
      obtain ⟨found, -, same⟩ := Option.map_eq_some_iff.1 read
      obtain ⟨rfl, -⟩ := Prod.mk.inj same
      exact .ofScalar rfl rfl
    unfold readValue? at read
    split at read
    next => exact string read
    next => exact string read
    next =>
      cases depth with
      | zero => cases read
      | succ depth =>
        obtain ⟨⟨items, after⟩, listed, same⟩ := Option.map_eq_some_iff.1 read
        obtain ⟨rfl, -⟩ := Prod.mk.inj same
        exact .ofItems (distinct_of_readItems? (ih depth (Nat.lt_succ_self depth)) listed)
    next =>
      cases depth with
      | zero => cases read
      | succ depth => exact distinct_of_readTable? (ih depth (Nat.lt_succ_self depth)) read
    next => exact distinct_of_readScalar? read

theorem distinct_of_readHeader? {draft next : Draft} (distinct : draft.root.Distinct)
    {text rest : List Char} (read : readHeader? draft text = some (next, rest)) :
    next.root.Distinct := by
  unfold readHeader? at read
  obtain ⟨⟨path, after⟩, -, read⟩ := Option.bind_eq_some_iff.1 read
  obtain ⟨key, -, read⟩ := Option.bind_eq_some_iff.1 read
  split at read
  next =>
    obtain ⟨root, made, read⟩ := Option.bind_eq_some_iff.1 read
    obtain ⟨rfl, -⟩ := Prod.mk.inj (Option.some.inj read)
    exact distinct.openItem made
  next =>
    obtain ⟨root, made, read⟩ := Option.bind_eq_some_iff.1 read
    obtain ⟨rfl, -⟩ := Prod.mk.inj (Option.some.inj read)
    exact distinct.openTable made
  next => cases read

theorem distinct_of_readLine {draft next : Draft} (distinct : draft.root.Distinct)
    {text rest : List Char} (read : readLine draft text = some (next, rest)) :
    next.root.Distinct := by
  unfold readLine at read
  split at read
  next => exact distinct_of_readHeader? distinct read
  next =>
    obtain ⟨⟨pair, after⟩, first, read⟩ := Option.bind_eq_some_iff.1 read
    obtain ⟨root, made, read⟩ := Option.bind_eq_some_iff.1 read
    obtain ⟨rfl, -⟩ := Prod.mk.inj (Option.some.inj read)
    have value := distinct_of_readPair? (readValue?_givesDistinct depthLimit) first
    exact Node.Distinct.within (fun distinct made => distinct.assignPair value made) false _
      distinct made

theorem distinct_of_readLinesOf {fuel : Nat} {draft last : Draft} (distinct : draft.root.Distinct)
    {text : List Char} (read : readLinesOf fuel draft text = some last) : last.root.Distinct := by
  induction fuel generalizing draft text with
  | zero => cases read
  | succ fuel ih =>
    rw [readLinesOf] at read
    split at read
    next =>
      obtain rfl := Option.some.inj read
      exact distinct
    next =>
      split at read
      next =>
        obtain ⟨rest, -, read⟩ := Option.bind_eq_some_iff.1 read
        exact ih distinct read
      next =>
        obtain ⟨⟨next, after⟩, line, read⟩ := Option.bind_eq_some_iff.1 read
        obtain ⟨rest, -, read⟩ := Option.bind_eq_some_iff.1 read
        exact ih (distinct_of_readLine distinct line) read

/-- A document gives no name to two members of one table. -/
theorem distinct_of_read? {text : List Char} {tree : Tree} (read : read? text = some tree) :
    tree.Distinct := by
  obtain ⟨draft, lines, rfl⟩ := Option.map_eq_some_iff.1 read
  exact (distinct_of_readLinesOf (Node.Distinct.empty _) lines).tree

end Toml

end UserDirectory.Configuration
