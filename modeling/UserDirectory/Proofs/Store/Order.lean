import Mathlib.Data.List.Nodup
import UserDirectory.Proofs.Time.Windows
import UserDirectory.Store.Basic

namespace UserDirectory.Store

theorem precedes_total (a b : User) : (precedes a b || precedes b a) = true := by
  simp only [precedes, Bool.or_eq_true, Bool.and_eq_true, decide_eq_true_iff]
  by_cases same : a.createdAt = b.createdAt
  · rcases String.le_total a.id.text b.id.text with least | greatest
    · exact .inr (.inr ⟨same.symm, least⟩)
    · exact .inl (.inr ⟨same, greatest⟩)
  · rcases Instant.lt_trichotomy a.createdAt b.createdAt with older | equal | newer
    · exact .inr (.inl older)
    · exact absurd equal same
    · exact .inl (.inl newer)

theorem precedes_trans (a b c : User) (first : precedes a b = true) (second : precedes b c = true) :
    precedes a c = true := by
  simp only [precedes, Bool.or_eq_true, Bool.and_eq_true, decide_eq_true_iff] at *
  rcases first with newer | ⟨same, greater⟩
  · rcases second with newer' | ⟨same', -⟩
    · exact .inl (Instant.lt_trans newer' newer)
    · exact .inl (same' ▸ newer)
  · rcases second with newer' | ⟨same', greater'⟩
    · exact .inl (same ▸ newer')
    · exact .inr ⟨same.trans same', String.le_trans greater' greater⟩

/-- Two users that precede each other have one id. -/
theorem id_eq_of_precedes {a b : User} (first : precedes a b = true)
    (second : precedes b a = true) : a.id = b.id := by
  simp only [precedes, Bool.or_eq_true, Bool.and_eq_true, decide_eq_true_iff] at *
  rcases first with newer | ⟨same, greater⟩
  · rcases second with older | ⟨same', -⟩
    · exact absurd (Instant.lt_trans newer older) (Instant.lt_irrefl _)
    · exact absurd (same' ▸ newer) (Instant.lt_irrefl _)
  · rcases second with older | ⟨-, greater'⟩
    · exact absurd (same ▸ older) (Instant.lt_irrefl _)
    · exact UserId.text_injective (String.le_antisymm greater' greater)

/-- Users with ids of their own are sorted into one list, in whatever order they come. -/
theorem sorted_unique {a b : List User} (perm : a.Perm b) (distinct : (b.map User.id).Nodup) :
    a.mergeSort precedes = b.mergeSort precedes := by
  have sorted : (a.mergeSort precedes).Perm (b.mergeSort precedes) :=
    (List.mergeSort_perm a precedes).trans (perm.trans (List.mergeSort_perm b precedes).symm)
  refine List.Perm.eq_of_pairwise ?_ (List.pairwise_mergeSort precedes_trans precedes_total a)
    (List.pairwise_mergeSort precedes_trans precedes_total b) sorted
  intro x y memberX memberY first second
  have inB : x ∈ b := perm.mem_iff.1 (List.mem_mergeSort.1 memberX)
  exact List.inj_on_of_nodup_map distinct inB (List.mem_mergeSort.1 memberY)
    (id_eq_of_precedes first second)

theorem ids_nodup {store : Store} (keyed : ∀ entry ∈ store.entries, entry.1 = entry.2.id.text) :
    (store.rows.map User.id).Nodup := by
  have texts : (store.rows.map User.id).map UserId.text = store.entries.map Prod.fst := by
    rw [rows, List.map_map, List.map_map]
    exact List.map_congr_left fun entry member => (keyed entry member).symm
  exact List.Nodup.of_map UserId.text (texts ▸ store.distinct)

theorem selection_ids_nodup (store : Store) (distinct : (store.rows.map User.id).Nodup)
    (filter : Filter) : ((store.selection filter).map User.id).Nodup := by
  have selected : (store.selection filter).Sublist store.rows :=
    List.filter_sublist.trans List.filter_sublist
  exact distinct.sublist (selected.map User.id)

end UserDirectory.Store
