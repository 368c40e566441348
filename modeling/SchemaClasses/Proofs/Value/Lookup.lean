/-
Looking up entries by key.

A lookup answers with the first entry of a key. What is bound to a key by
a list of bindings, of which the last one counts, is therefore looked up
from the back (`Entries.get?_ofBindings`). Where keys are distinct, front
and back do not matter (`lookup_eq_of_perm`).

Two lists that agree entry by entry agree on every key
(`rel_lookup_of_forall₂`), so what is known of a reader that goes through
entries one by one is known of each lookup in what it makes of them.
-/
import Mathlib.Data.List.Forall2
import Mathlib.Data.List.Nodup
import SchemaClasses.Value.Basic

namespace SchemaClasses

variable {α β γ κ : Type}

-- ============================================================= lookup

/-- A lookup finds the first entry or goes on behind it. -/
theorem lookup_cons_eq [BEq κ] [LawfulBEq κ] [DecidableEq κ] (key other : κ) (a : α)
    (rest : List (κ × α)) :
    ((key, a) :: rest).lookup other = if other = key then some a else rest.lookup other := by
  rw [List.lookup_cons]
  by_cases here : other = key
  · rw [if_pos here, beq_iff_eq.2 here]
  · rw [if_neg here, beq_eq_false_iff_ne.2 here]

/-- A lookup answers with the first of the entries of its key. -/
theorem lookup_eq_head?_filter (entries : List (String × α)) (key : String) :
    entries.lookup key = ((entries.filter (·.1 == key)).head?).map Prod.snd := by
  induction entries with
  | nil => rfl
  | cons entry rest ih =>
      obtain ⟨first, a⟩ := entry
      rw [lookup_cons_eq, List.filter_cons]
      by_cases same : key = first
      · rw [if_pos same, if_pos (beq_iff_eq.2 same.symm)]
        rfl
      · rw [if_neg same, if_neg fun eq => same (beq_iff_eq.1 eq).symm]
        exact ih

/-- Among distinct keys an entry is found under its key. -/
theorem lookup_eq_some_iff_mem [BEq κ] [LawfulBEq κ] [DecidableEq κ] {entries : List (κ × α)}
    (distinct : (entries.map Prod.fst).Nodup) {key : κ} {a : α} :
    entries.lookup key = some a ↔ (key, a) ∈ entries := by
  induction entries with
  | nil => simp
  | cons entry rest ih =>
      obtain ⟨first, b⟩ := entry
      obtain ⟨fresh, later⟩ := List.nodup_cons.1 distinct
      rw [lookup_cons_eq, List.mem_cons, Prod.mk.injEq]
      by_cases same : key = first
      · have notLater : (key, a) ∉ rest := by
          intro mem
          exact fresh (List.mem_map.2 ⟨(key, a), mem, same⟩)
        rw [if_pos same, Option.some.injEq]
        constructor
        · exact fun eq => .inl ⟨same, eq.symm⟩
        · exact fun mem => (mem.resolve_right notLater).2.symm
      · rw [if_neg same, ih later]
        constructor
        · exact .inr
        · exact fun mem => mem.resolve_left fun eq => same eq.1

/-- Where distinct keys stand does not matter. -/
theorem lookup_eq_of_perm [BEq κ] [LawfulBEq κ] [DecidableEq κ] {front back : List (κ × α)}
    (perm : front.Perm back) (distinct : (front.map Prod.fst).Nodup) (key : κ) :
    front.lookup key = back.lookup key := by
  have distinctBack : (back.map Prod.fst).Nodup := (perm.map Prod.fst).nodup_iff.1 distinct
  apply Option.ext
  intro a
  rw [lookup_eq_some_iff_mem distinct, lookup_eq_some_iff_mem distinctBack]
  exact perm.mem_iff

/-- A key that is kept is found among the entries that are kept. -/
theorem lookup_filter_key {keep : String → Bool} {key : String} (kept : keep key = true)
    (entries : List (String × α)) :
    (entries.filter fun entry => keep entry.1).lookup key = entries.lookup key := by
  induction entries with
  | nil => rfl
  | cons entry rest ih =>
      obtain ⟨first, a⟩ := entry
      rw [lookup_cons_eq, List.filter_cons]
      by_cases same : key = first
      · rw [if_pos same, if_pos (same ▸ kept), lookup_cons_eq, if_pos same]
      · rw [if_neg same, ← ih]
        split
        · rw [lookup_cons_eq, if_neg same]
        · rfl

/-- What is made of each entry is found by the name it has from the key. -/
theorem find?_map_named {make : String → α → γ} {nameOf : γ → String}
    (named : ∀ key a, nameOf (make key a) = key) (entries : List (String × α)) (key : String) :
    (entries.map fun entry => make entry.1 entry.2).find? (nameOf · == key) =
      (entries.lookup key).map (make key) := by
  induction entries with
  | nil => rfl
  | cons entry rest ih =>
      obtain ⟨first, a⟩ := entry
      rw [List.map_cons, List.find?_cons, named, lookup_cons_eq]
      by_cases same : key = first
      · subst same
        rw [beq_self_eq_true, if_pos rfl]
        rfl
      · rw [beq_eq_false_iff_ne.2 (Ne.symm same), if_neg same]
        exact ih

-- ======================================================= entry by entry

/-- Entries of one key. -/
def SameKey (R : α → β → Prop) (first : String × α) (second : String × β) : Prop :=
  first.1 = second.1 ∧ R first.2 second.2

theorem isSome_eq_of_rel {R : α → β → Prop} {a : Option α} {b : Option β} (h : Option.Rel R a b) :
    a.isSome = b.isSome := by
  cases h with
  | none => rfl
  | some => rfl

theorem exists_of_rel {R : α → β → Prop} {front : Option α} {back : Option β} {a : α}
    (h : Option.Rel R front back) (found : front = some a) : ∃ b, back = some b ∧ R a b := by
  cases h with
  | none => cases found
  | some related =>
      cases found
      exact ⟨_, rfl, related⟩

/-- Entries that agree one by one agree on every key. -/
theorem rel_lookup_of_forall₂ {R : α → β → Prop} {front : List (String × α)}
    {back : List (String × β)} (h : List.Forall₂ (SameKey R) front back) (key : String) :
    Option.Rel R (front.lookup key) (back.lookup key) := by
  induction h with
  | nil => exact .none
  | cons first others ih =>
      obtain ⟨same, related⟩ := first
      rw [List.lookup_cons, List.lookup_cons, ← same]
      split
      · exact .some related
      · exact ih

theorem keys_eq_of_forall₂ {R : α → β → Prop} {front : List (String × α)}
    {back : List (String × β)} (h : List.Forall₂ (SameKey R) front back) :
    front.map Prod.fst = back.map Prod.fst := by
  induction h with
  | nil => rfl
  | cons first others ih => rw [List.map_cons, List.map_cons, first.1, ih]

/-- What a step makes of each of several things, if it makes something of all of them. -/
theorem forall₂_of_mapM {f : α → Option β} {front : List α} {back : List β}
    (h : front.mapM f = some back) : List.Forall₂ (fun a b => f a = some b) front back := by
  induction front generalizing back with
  | nil =>
      cases h
      exact .nil
  | cons a rest ih =>
      rw [List.mapM_cons] at h
      obtain ⟨b, first, h⟩ := Option.bind_eq_some_iff.1 h
      obtain ⟨others, later, h⟩ := Option.bind_eq_some_iff.1 h
      cases h
      exact .cons first (ih later)

/-- The entries of the keys that have a text. Other keys cannot be asked for. -/
def keyed (text? : κ → Option String) (pairs : List (κ × α)) : List (String × α) :=
  pairs.filterMap fun (key, a) => (text? key).map (·, a)

theorem keyed_cons {text? : κ → Option String} {key : κ} {name : String} (a : α)
    (rest : List (κ × α)) (named : text? key = some name) :
    keyed text? ((key, a) :: rest) = (name, a) :: keyed text? rest :=
  List.filterMap_cons_some (congrArg (Option.map _) named)

/-- Pairs whose keys have the texts of entries, one by one, are the entries of these texts. -/
theorem forall₂_keyed {R : α → β → Prop} {text? : κ → Option String} {pairs : List (κ × α)}
    {back : List (String × β)}
    (h : List.Forall₂ (fun pair entry => text? pair.1 = some entry.1 ∧ R pair.2 entry.2) pairs
      back) : List.Forall₂ (SameKey R) (keyed text? pairs) back := by
  induction h with
  | nil => exact .nil
  | cons first others ih =>
      rename_i pair entry pairs back
      obtain ⟨named, related⟩ := first
      rw [keyed_cons pair.2 pairs named]
      exact .cons ⟨rfl, related⟩ ih

-- ============================================================ bindings

namespace Entries

theorem get?_put (key other : String) (value : Value) (entries : Entries) :
    (put key value entries).get? other =
      if other = key then some value else entries.get? other := by
  unfold get?
  induction entries with
  | nil => exact lookup_cons_eq key other value []
  | cons entry rest ih =>
      obtain ⟨first, bound⟩ := entry
      unfold put
      by_cases here : first = key
      · rw [if_pos here, lookup_cons_eq, lookup_cons_eq, here]
        by_cases same : other = key
        · rw [if_pos same, if_pos same]
        · rw [if_neg same, if_neg same, if_neg same]
      · rw [if_neg here, lookup_cons_eq, lookup_cons_eq, ih]
        by_cases same : other = first
        · have elsewhere : other ≠ key := fun eq => here (same.symm.trans eq)
          rw [if_pos same, if_neg elsewhere, if_pos same]
        · rw [if_neg same, if_neg same]

theorem keys_put (key : String) (value : Value) (entries : Entries) :
    (put key value entries).map Prod.fst =
      if key ∈ entries.map Prod.fst then entries.map Prod.fst
      else entries.map Prod.fst ++ [key] := by
  induction entries with
  | nil => rfl
  | cons entry rest ih =>
      unfold put
      by_cases here : entry.1 = key
      · rw [if_pos here, List.map_cons, List.map_cons, if_pos (by simp [here])]
      · rw [if_neg here, List.map_cons, List.map_cons, ih]
        by_cases later : key ∈ rest.map Prod.fst
        · rw [if_pos later, if_pos (List.mem_cons_of_mem _ later)]
        · rw [if_neg later, if_neg (by simp [Ne.symm here, later]), List.cons_append]

theorem nodup_put {entries : Entries} (distinct : (entries.map Prod.fst).Nodup) (key : String)
    (value : Value) : ((put key value entries).map Prod.fst).Nodup := by
  rw [keys_put]
  split
  · exact distinct
  next fresh =>
    rw [← List.concat_eq_append]
    exact List.Nodup.concat fresh distinct

/-- Bindings describe a mapping of distinct keys. -/
theorem nodup_ofBindings (bindings : List (String × Value)) :
    ((ofBindings bindings).map Prod.fst).Nodup := by
  have onto : ∀ (rest entries : Entries), (entries.map Prod.fst).Nodup →
      ((rest.foldl (fun entries entry => put entry.1 entry.2 entries) entries).map
        Prod.fst).Nodup := by
    intro rest
    induction rest with
    | nil => exact fun _ distinct => distinct
    | cons entry rest ih =>
        intro entries distinct
        exact ih _ (nodup_put distinct entry.1 entry.2)
  exact onto bindings [] List.nodup_nil

/-- Of several bindings of one key the last one counts. -/
theorem get?_ofBindings (bindings : List (String × Value)) (key : String) :
    (ofBindings bindings).get? key = bindings.reverse.lookup key := by
  -- behind the entries that are there already, whose bindings are the older ones
  have onto : ∀ rest entries : Entries,
      get? (rest.foldl (fun entries entry => put entry.1 entry.2 entries) entries) key =
        (rest.reverse.lookup key).or (entries.get? key) := by
    intro rest
    induction rest with
    | nil => exact fun entries => rfl
    | cons entry rest ih =>
        intro entries
        have own : [entry].lookup key = if key = entry.1 then some entry.2 else none :=
          get?_put entry.1 key entry.2 []
        rw [List.foldl_cons, ih, get?_put, List.reverse_cons, List.lookup_append, Option.or_assoc,
          own]
        by_cases same : key = entry.1
        · rw [if_pos same, if_pos same, Option.some_or]
        · rw [if_neg same, if_neg same, Option.none_or]
  have all := onto bindings []
  rw [show get? [] key = none from rfl, Option.or_none] at all
  exact all

end Entries

end SchemaClasses
