import UserDirectory.Proofs.Service.Listing
import UserDirectory.Proofs.Sql.Listing
import UserDirectory.Proofs.Sql.Template

/-!
The arithmetic of pages. Callers give page numbers and sizes as signed words of 64 bits, a query
holds them in 32 bits, the number of users left out is a word of 64 bits, and a database takes it as
a signed one. The queries of requests fit all of these. Of the others none overflows, and one that
is cut for the database asks for a page that is empty in either store.
-/

namespace UserDirectory

open Sql Database

def Paging.greatestSkip : Nat := 9223372036854775807

namespace Paging

theorem size_range (wanted : Int) : 1 ≤ size wanted ∧ size wanted ≤ greatestSize := by
  unfold size defaultSize greatestSize
  split
  next absent => decide
  next given => omega

theorem size_natCast {number : Nat} (least : 1 ≤ number) (most : number ≤ greatestSize) :
    size number = number := by
  unfold size
  rw [if_neg (by omega)]
  omega

theorem page_mono {wanted later : Int} (le : wanted ≤ later) : page wanted ≤ page later := by
  unfold page
  omega

end Paging

namespace Query

/-- The users left out, in the words of a machine: the page number stops at zero, both numbers are
widened, and the product wraps around if it is too great. -/
def skipWord (page pageSize : UInt32) : UInt64 :=
  (if page = 0 then 0 else page - 1).toUInt64 * pageSize.toUInt64

variable {query : Query}

theorem skip_le_of_range (number : query.page ≤ Paging.greatestPage)
    (size : query.pageSize ≤ Paging.greatestSize) : query.skip ≤ Paging.greatestSkip :=
  calc (query.page - 1) * query.pageSize
    _ ≤ (Paging.greatestPage - 1) * Paging.greatestSize :=
      Nat.mul_le_mul (Nat.sub_le_sub_right number 1) size
    _ ≤ Paging.greatestSkip := by decide

theorem skip_lt_of_words (number : query.page < 4294967296) (size : query.pageSize < 4294967296) :
    query.skip < 18446744073709551616 :=
  calc (query.page - 1) * query.pageSize
    _ ≤ 4294967295 * 4294967295 := Nat.mul_le_mul (by omega) (by omega)
    _ < 18446744073709551616 := by decide

theorem toNat_skipWord (filter : Filter) (page pageSize : UInt32) :
    (skipWord page pageSize).toNat = skip ⟨filter, page.toNat, pageSize.toNat⟩ := by
  have before : (if page = 0 then 0 else page - 1).toNat = page.toNat - 1 := by
    split
    next zero => rw [zero]; rfl
    next nonzero =>
      have positive : page.toNat ≠ 0 := fun none => nonzero (UInt32.toNat_inj.1 none)
      exact UInt32.toNat_sub_of_le page 1
        (UInt32.le_iff_toNat_le.2 (Nat.one_le_iff_ne_zero.2 positive))
  have fits : skip ⟨filter, page.toNat, pageSize.toNat⟩ < 18446744073709551616 :=
    skip_lt_of_words page.toNat_lt pageSize.toNat_lt
  rw [skipWord, UInt64.toNat_mul, UInt32.toNat_toUInt64, UInt32.toNat_toUInt64, before]
  exact Nat.mod_eq_of_lt fits

end Query

namespace Sql.Statement

/-- A listing binds the values of its conditions, then its limit and what it leaves out. -/
theorem list_values (query : Query) :
    (list query).template.values = (Condition.allTemplate query.filter.liveConditions).values ++
      [.integer (cut query.limit), .integer (cut query.skip)] := by
  simp only [list, template, selection, List.cons_append, Template.values_words,
    Template.values_append, Template.values_value, Template.values_nil]

theorem cut_of_le {n : Nat} (fits : n ≤ Paging.greatestSkip) : cut n = n := Nat.min_eq_left fits

theorem cut_of_lt {n : Nat} (beyond : Paging.greatestSkip < n) : cut n = Paging.greatestSkip :=
  Nat.min_eq_right (Nat.le_of_lt beyond)

end Sql.Statement

/-- A database lists, for a store that it keeps, users that the store selects. -/
theorem Store.KeptIn.eval_list {store : Store} {table : Table} (kept : store.KeptIn table)
    (query : Query) : ∃ selected : List User, selected.Perm (store.selection query.filter) ∧
      (UserStore.list query).eval Table.peer table =
        (.ok ⟨query.cutFrom selected, store.count query.filter, query.page, query.pageSize⟩,
          table) := by
  obtain ⟨users, rfl, perm⟩ := kept.users
  have selected : (query.filter.liveOf users).Perm (store.selection query.filter) := by
    rw [store.selection_eq]
    exact perm.filter _
  refine ⟨_, selected, ?_⟩
  rw [UserDirectory.eval_list, selected.length_eq]
  rfl

/-- Past the greatest signed word there is nobody left, in memory or in a database. -/
theorem Store.KeptIn.page_beyond {store : Store} {table : Table} (kept : store.KeptIn table)
    (few : table.length ≤ Paging.greatestSkip) {query : Query}
    (beyond : Paging.greatestSkip < query.skip) :
    let empty : Page := ⟨[], store.count query.filter, query.page, query.pageSize⟩
    store.page query = empty ∧
      (UserStore.list query).eval Table.peer table = (.ok empty, table) := by
  intro empty
  have rows : table.length = store.rows.length := by
    simpa only [List.length_map] using kept.length_eq
  have within : (store.selection query.filter).length ≤ Paging.greatestSkip := by
    have selected : (store.selection query.filter).Sublist store.rows :=
      List.filter_sublist.trans List.filter_sublist
    exact Nat.le_trans selected.length_le (rows ▸ few)
  obtain ⟨selected, perm, listed⟩ := kept.eval_list query
  constructor
  · rw [Store.page]
    simp only [empty]
    rw [List.drop_of_length_le, List.take_nil]
    · rfl
    · rw [List.length_mergeSort]
      exact Nat.le_trans within (Nat.le_of_lt beyond)
  · rw [listed, Query.cutFrom, Statement.cut_of_lt beyond, List.drop_of_length_le, List.take_nil]
    rw [List.length_mergeSort, perm.length_eq]
    exact within

theorem Service.makes_listUsers (settings : Settings) (request : ListRequest) :
    (listUsers settings request).Makes fun wanted => ∃ filter,
      wanted = .list ⟨filter, Paging.page request.page, Paging.size request.pageSize⟩ := by
  refine Program.Asks.makes ?_
  refine (Program.asks_require _).bind fun status => (Program.asks_ofExcept _).bind fun range => ?_
  exact Program.asks_ask ⟨_, rfl⟩

/-- The arithmetic of pages is exact. A request's page number and size are brought into their
ranges, and left alone where they are in them; this is idempotent, and greater numbers do not lead
to earlier pages. What the query of a request leaves out fits a signed word of 64 bits, so the
database is told the very numbers that the store in memory skips and takes. Of any query with its
numbers in 32 bits, what it leaves out is the product as it should be, without overflow in an
unsigned word; and where the database is told less, the page is empty in both stores. -/
theorem Paging.arithmetic_exact :
    (∀ wanted wantedSize : Int,
      let number := page wanted
      let size := size wantedSize
      (1 ≤ number ∧ number ≤ 4294967295 ∧ 1 ≤ size ∧ size ≤ 100) ∧
      (1 ≤ wanted → wanted ≤ 4294967295 → (number : Int) = wanted) ∧
      (1 ≤ wantedSize → wantedSize ≤ 100 → (size : Int) = wantedSize) ∧
      (page number = number ∧ Paging.size size = size) ∧
      (∀ later, wanted ≤ later → number ≤ page later) ∧
      ∀ filter, let query : Query := ⟨filter, number, size⟩
        query.skip = (number - 1) * size ∧ query.skip ≤ 9223372036854775807 ∧
        (Statement.list query).template.values =
          (Condition.allTemplate filter.liveConditions).values ++
            [.integer query.limit, .integer query.skip] ∧
        ∀ store : Store, (store.page query).users =
          (((store.selection filter).mergeSort Store.precedes).drop query.skip).take query.limit) ∧
    (∀ settings request, (Service.listUsers settings request).Makes fun wanted => ∃ filter,
      wanted = .list ⟨filter, page request.page, size request.pageSize⟩) ∧
    ∀ (filter : Filter) (number pageSize : UInt32),
      let query : Query := ⟨filter, number.toNat, pageSize.toNat⟩
      (query.skip : Int) = max ((number.toNat : Int) - 1) 0 * pageSize.toNat ∧
      query.skip < 18446744073709551616 ∧
      (Query.skipWord number pageSize).toNat = query.skip ∧
      (Statement.list query).template.values =
        (Condition.allTemplate filter.liveConditions).values ++
          [.integer query.limit, .integer (min query.skip 9223372036854775807 : Nat)] ∧
      (9223372036854775807 < query.skip → ∀ (store : Store) (table : Table),
        store.KeptIn table → table.length < 9223372036854775808 →
        let empty : Page := ⟨[], store.count filter, query.page, query.pageSize⟩
        store.page query = empty ∧
          (UserStore.list query).eval Table.peer table = (.ok empty, table)) := by
  refine ⟨fun wanted wantedSize => ?_, Service.makes_listUsers, fun filter number pageSize => ?_⟩
  · obtain ⟨least, most⟩ := page_range wanted
    obtain ⟨leastSize, mostSize⟩ := size_range wantedSize
    refine ⟨⟨least, most, leastSize, mostSize⟩, fun positive fits => ?_, fun positive fits => ?_,
      ⟨page_natCast least most, size_natCast leastSize mostSize⟩, fun later => page_mono,
      fun filter => ?_⟩
    · obtain ⟨number, rfl⟩ := Int.eq_ofNat_of_zero_le (Int.le_trans (by decide) positive)
      exact congrArg _ (page_natCast (by omega) (by unfold greatestPage; omega))
    · obtain ⟨number, rfl⟩ := Int.eq_ofNat_of_zero_le (Int.le_trans (by decide) positive)
      exact congrArg _ (size_natCast (by omega) (by unfold greatestSize; omega))
    · have fits : (⟨filter, page wanted, size wantedSize⟩ : Query).skip ≤ greatestSkip :=
        Query.skip_le_of_range most mostSize
      have short : size wantedSize ≤ greatestSkip := Nat.le_trans mostSize (by decide)
      refine ⟨rfl, fits, ?_, fun store => rfl⟩
      rw [Statement.list_values, Statement.cut_of_le fits, Query.limit, Statement.cut_of_le short]
  · have short : pageSize.toNat ≤ greatestSkip :=
      Nat.le_of_lt (Nat.lt_trans pageSize.toNat_lt (by decide))
    refine ⟨?_, Query.skip_lt_of_words number.toNat_lt pageSize.toNat_lt,
      Query.toNat_skipWord filter number pageSize, ?_, ?_⟩
    · have before : ((number.toNat - 1 : Nat) : Int) = max ((number.toNat : Int) - 1) 0 := by omega
      rw [← before]
      exact Int.natCast_mul _ _
    · rw [Statement.list_values, Query.limit, Statement.cut_of_le short]
      rfl
    · intro beyond store table kept few
      exact kept.page_beyond (Nat.le_of_lt_succ few) beyond

theorem Paging.arithmetic_exact_farthest :
    9223372036854775807 < (⟨{}, 4294967295, 4294967295⟩ : Query).skip ∧
      Store.couple.KeptIn Store.couple.table ∧
      Store.couple.table.length < 9223372036854775808 ∧
      (Store.couple.page ⟨{}, 4294967295, 4294967295⟩).users = [] ∧
      (UserStore.list ⟨{}, 4294967295, 4294967295⟩).eval Table.peer Store.couple.table =
        (.ok (Store.couple.page ⟨{}, 4294967295, 4294967295⟩), Store.couple.table) := by
  have beyond : 9223372036854775807 < (⟨{}, 4294967295, 4294967295⟩ : Query).skip := by decide
  have few : Store.couple.table.length < 9223372036854775808 := by decide
  obtain ⟨-, -, -, -, pages⟩ := Paging.arithmetic_exact.2.2 {} 4294967295 4294967295
  obtain ⟨shown, listed⟩ := pages beyond .couple Store.couple.table Store.couple.table_keeps few
  rw [← shown] at listed
  exact ⟨beyond, Store.couple.table_keeps, few, congrArg Page.users shown, listed⟩

end UserDirectory
