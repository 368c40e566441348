/-
What becomes of underscores.

Camel case goes through a name character by character and remembers no
more than whether an underscore came last. What it does to words is what
one would write down without that memory: cut the name at its
underscores, and run the words together with each but the first
capitalized (`runTogether`). Between two underscores in a row, and behind
one at the end, stands an empty word, and that adds nothing.

No underscore is left. One could only come back from upper case, which
may turn a character into several, and a look at the tables shows that
it turns no other character into an underscore. So a name is its own
camel case exactly if it has no underscore, and camel case done twice is
camel case.
-/
import SchemaClasses.Proofs.Naming.CamelCase

namespace SchemaClasses

-- ========================================================= upper case

namespace Text

/-- No upper case of several characters has an underscore among them. -/
theorem underscore_notMem_severalUppers : ∀ entry ∈ severalUppers, '_'.toNat ∉ entry.2 :=
  List.all_iff_forall_prop.1 (by decide +kernel)

/-- The upper cases of a run are all before the underscore or all behind it. -/
theorem underscore_outside_singleUppers : ∀ run ∈ singleUppers,
    run.target + (run.last - run.first) < '_'.toNat ∨ '_'.toNat < run.target :=
  List.all_iff_forall_prop.1 (by decide +kernel)

/-- Only the code point of the underscore makes an underscore. -/
theorem eq_of_ofNat_eq_underscore {n : Nat} (h : Char.ofNat n = '_') : n = '_'.toNat := by
  by_cases valid : n.isValidChar
  · rw [← h, Char.ofNat, dif_pos valid]
    rfl
  · rw [Char.ofNat, dif_neg valid] at h
    cases h

/-- Only the underscore has an underscore in its upper case. -/
theorem eq_of_underscore_mem_upper {c : Char} (h : '_' ∈ upper c) : c = '_' := by
  unfold upper at h
  split at h
  · rename_i points found
    obtain ⟨point, mem, made⟩ := List.mem_map.1 h
    obtain ⟨front, back, entries, -⟩ := List.lookup_eq_some_iff.1 found
    have entry : (c.toNat, points) ∈ severalUppers := entries ▸ by simp
    exact absurd (eq_of_ofNat_eq_underscore made ▸ mem) (underscore_notMem_severalUppers _ entry)
  · split at h
    · rename_i point found
      obtain ⟨run, mem, upper⟩ := List.exists_of_findSome?_eq_some found
      have made := eq_of_ofNat_eq_underscore (List.mem_singleton.1 h).symm
      unfold CaseRun.upper? at upper
      -- upper cases go up in step with the run, so this one lies between those of its ends
      split at upper
      · have outside := underscore_outside_singleUppers run mem
        cases upper
        omega
      · cases upper
    · exact (List.mem_singleton.1 h).symm

end Text

-- ========================================================= camel case

namespace Naming

/-- The words of a name run together, each but the first capitalized. -/
def runTogether (name : String) : String :=
  match Text.pieces '_' name.toList with
  | [] => ""
  | first :: others => String.ofList (first ++ others.flatMap capitalize)

/-- Camel case is the words run together. -/
theorem camelCase_eq_runTogether (name : String) : camelCase name = runTogether name := by
  obtain ⟨first, others, cut, inside, -⟩ := camelChars_eq name.toList
  rw [camelCase, inside, runTogether, cut]

/-- Camel case leaves no underscore, wherever it starts to read. -/
theorem underscore_notMem_camelChars (capital : Bool) (chars : List Char) :
    '_' ∉ camelChars capital chars := by
  induction chars generalizing capital with
  | nil => exact List.not_mem_nil
  | cons c rest ih =>
      unfold camelChars
      by_cases hc : c = '_'
      · rw [if_pos hc]
        exact ih true
      · rw [if_neg hc]
        cases capital with
        | true =>
            rw [if_pos rfl, List.mem_append, not_or]
            exact ⟨fun mem => hc (Text.eq_of_underscore_mem_upper mem), ih false⟩
        | false =>
            rw [if_neg Bool.false_ne_true, List.mem_cons, not_or]
            exact ⟨Ne.symm hc, ih false⟩

/-- No name in camel case has an underscore. -/
theorem underscore_notMem_camelCase (name : String) : '_' ∉ (camelCase name).toList := by
  rw [camelCase, String.toList_ofList]
  exact underscore_notMem_camelChars false name.toList

/-- A name in camel case is its own camel case. -/
theorem camelCase_camelCase (name : String) : camelCase (camelCase name) = camelCase name :=
  camelCase_of_notMem (underscore_notMem_camelCase name)

/-- A name is its own camel case exactly if it has no underscore. -/
theorem camelCase_eq_self_iff {name : String} : camelCase name = name ↔ '_' ∉ name.toList := by
  constructor
  · intro same
    rw [← same]
    exact underscore_notMem_camelCase name
  · exact camelCase_of_notMem

-- Upper case may be several characters, and underscores at the ends of words count for nothing.
example : camelCase "maß__ßen_" = "maßSSen" ∧ camelCase "_id" = "Id" := by decide +kernel

end Naming

end SchemaClasses
