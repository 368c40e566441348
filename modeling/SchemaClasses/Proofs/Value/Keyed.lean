/-
Distinct keys in an order.

A list of distinct keys has an order that means something, and its keys
have an order of their own, in which they ascend. Putting entries in one
by one where they belong brings a list into ascending order, whatever
order they come in: the ascending order is only one.
-/
import SchemaClasses.Value.Basic

namespace SchemaClasses

/-- Distinct keys, in order, with what is bound to each. -/
@[ext]
structure Keyed (α : Type) where
  entries : List (String × α)
  distinct : (entries.map Prod.fst).Nodup

variable {α β : Type}

-- ============================================== putting in one by one

/-- Puts an entry where its key belongs among ascending ones. -/
def insertKey (entry : String × α) : List (String × α) → List (String × α)
  | [] => [entry]
  | other :: rest =>
    if other.1 < entry.1 then other :: insertKey entry rest else entry :: other :: rest

/-- The entries in ascending order of their keys. -/
def ascend (entries : List (String × α)) : List (String × α) := entries.foldr insertKey []

theorem perm_insertKey (entry : String × α) (entries : List (String × α)) :
    (insertKey entry entries).Perm (entry :: entries) := by
  induction entries with
  | nil => exact List.Perm.refl _
  | cons other rest ih =>
      unfold insertKey
      split
      · exact (ih.cons other).trans (List.Perm.swap entry other rest)
      · exact List.Perm.refl _

theorem perm_ascend (entries : List (String × α)) : (ascend entries).Perm entries := by
  induction entries with
  | nil => exact List.Perm.refl _
  | cons entry rest ih => exact (perm_insertKey entry _).trans (ih.cons entry)

/-- Of two different keys one comes first. -/
theorem lt_of_not_lt_of_ne {a b : String} (notBefore : ¬b < a) (differ : a ≠ b) : a < b := by
  rcases String.le_total b a with le | le
  · exact absurd (String.le_antisymm (String.not_lt.1 notBefore) le) differ
  · exact Decidable.byContradiction fun notLt =>
      differ (String.le_antisymm (String.not_lt.1 notBefore) (String.not_lt.1 notLt))

/-- The keys of entries ascend, so none occurs twice. -/
def Ascending (entries : List (String × α)) : Prop :=
  entries.Pairwise fun first second => first.1 < second.1

theorem ascending_insertKey {entry : String × α} {entries : List (String × α)}
    (ascending : Ascending entries) (fresh : entry.1 ∉ entries.map Prod.fst) :
    Ascending (insertKey entry entries) := by
  induction entries with
  | nil => exact List.pairwise_singleton _ _
  | cons other rest ih =>
      obtain ⟨first, later⟩ := List.pairwise_cons.1 ascending
      rw [List.map_cons, List.mem_cons, not_or] at fresh
      unfold insertKey
      split
      next before =>
        refine List.pairwise_cons.2 ⟨fun x mem => ?_, ih later fresh.2⟩
        rcases List.mem_cons.1 ((perm_insertKey entry rest).mem_iff.1 mem) with rfl | inRest
        · exact before
        · exact first x inRest
      next notBefore =>
        have before : entry.1 < other.1 := lt_of_not_lt_of_ne notBefore fresh.1
        refine List.pairwise_cons.2 ⟨fun x mem => ?_, ascending⟩
        rcases List.mem_cons.1 mem with rfl | inRest
        · exact before
        · exact String.lt_trans before (first x inRest)

/-- Distinct keys come out ascending. -/
theorem ascending_ascend {entries : List (String × α)}
    (distinct : (entries.map Prod.fst).Nodup) : Ascending (ascend entries) := by
  induction entries with
  | nil => exact List.Pairwise.nil
  | cons entry rest ih =>
      obtain ⟨fresh, later⟩ := List.nodup_cons.1 distinct
      refine ascending_insertKey (ih later) fun mem => fresh ?_
      exact ((perm_ascend rest).map Prod.fst).mem_iff.1 mem

-- ============================================ the one ascending order

/-- Two ascending lists with the same entries are the same list. -/
theorem Ascending.eq_of_perm {front back : List (String × α)} (hfront : Ascending front)
    (hback : Ascending back) (perm : front.Perm back) : front = back := by
  refine perm.eq_of_pairwise (fun a b _ _ before after => ?_) hfront hback
  exact absurd after (String.lt_asymm before)

/-- Entries that are one another's rearrangement are the same in ascending order. -/
theorem ascend_eq_of_perm {front back : List (String × α)} (perm : front.Perm back)
    (distinct : (front.map Prod.fst).Nodup) : ascend front = ascend back :=
  (ascending_ascend distinct).eq_of_perm
    (ascending_ascend ((perm.map Prod.fst).nodup_iff.1 distinct))
    ((perm_ascend front).trans (perm.trans (perm_ascend back).symm))

/-- Bringing keys into ascending order changes nothing exactly if they ascend already. -/
theorem ascend_eq_self_iff {entries : List (String × α)}
    (distinct : (entries.map Prod.fst).Nodup) : ascend entries = entries ↔ Ascending entries := by
  constructor
  · intro same
    rw [← same]
    exact ascending_ascend distinct
  · intro ascending
    exact (ascending_ascend distinct).eq_of_perm ascending (perm_ascend entries)

/-- Whether entries ascend depends on their keys alone. -/
theorem ascending_map (f : α → β) {entries : List (String × α)} :
    Ascending (entries.map fun entry => (entry.1, f entry.2)) ↔ Ascending entries :=
  List.pairwise_map

/-- What is bound to keys may be changed before or after they are brought into order. -/
theorem ascend_map (f : α → β) {entries : List (String × α)}
    (distinct : (entries.map Prod.fst).Nodup) :
    ascend (entries.map fun entry => (entry.1, f entry.2)) =
      (ascend entries).map fun entry => (entry.1, f entry.2) := by
  have keys : (entries.map fun entry => (entry.1, f entry.2)).map Prod.fst =
      entries.map Prod.fst := by
    rw [List.map_map]
    rfl
  refine (ascending_ascend (keys ▸ distinct)).eq_of_perm
    ((ascending_map f).2 (ascending_ascend distinct)) ?_
  exact (perm_ascend _).trans ((perm_ascend entries).map _).symm

/-- Entries may be picked by their keys before or after they are brought into order. -/
theorem ascend_filter (p : String × α → Bool) {entries : List (String × α)}
    (distinct : (entries.map Prod.fst).Nodup) :
    ascend (entries.filter p) = (ascend entries).filter p := by
  have kept : ((entries.filter p).map Prod.fst).Nodup :=
    (List.filter_sublist.map Prod.fst).nodup distinct
  refine (ascending_ascend kept).eq_of_perm ((ascending_ascend distinct).filter p) ?_
  exact (perm_ascend _).trans ((perm_ascend entries).filter p).symm

-- ============================================================ bindings

/-- A key that is not there yet is bound at the end. -/
theorem Entries.put_of_notMem {key : String} {entries : Entries} (value : Value)
    (fresh : key ∉ entries.map Prod.fst) :
    Entries.put key value entries = entries ++ [(key, value)] := by
  induction entries with
  | nil => rfl
  | cons entry rest ih =>
      rw [List.map_cons, List.mem_cons, not_or] at fresh
      rw [Entries.put, if_neg (Ne.symm fresh.1), ih fresh.2, List.cons_append]

/-- Bindings of distinct keys are the mapping they describe. -/
theorem Entries.ofBindings_of_nodup {bindings : List (String × Value)}
    (distinct : (bindings.map Prod.fst).Nodup) : Entries.ofBindings bindings = bindings := by
  have onto : ∀ (rest entries : Entries), ((entries ++ rest).map Prod.fst).Nodup →
      rest.foldl (fun entries entry => Entries.put entry.1 entry.2 entries) entries =
        entries ++ rest := by
    intro rest
    induction rest with
    | nil => intro entries _; rw [List.append_nil]; rfl
    | cons entry rest ih =>
        intro entries distinct
        have fresh : entry.1 ∉ entries.map Prod.fst := by
          intro mem
          rw [List.map_append, List.nodup_append] at distinct
          exact distinct.2.2 _ mem _ (List.mem_map_of_mem List.mem_cons_self) rfl
        rw [List.foldl_cons, Entries.put_of_notMem entry.2 fresh, ih, List.append_assoc]
        · rfl
        · rwa [List.append_assoc]
  exact onto bindings [] distinct

end SchemaClasses
