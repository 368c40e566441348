/-
Reading a YAML document of a schema tree.

The root is a block like any other, only that nothing lies around it. What
stands before it leaves at most the marker of the document's start behind,
and what stands after it closes it.
-/
import Mathlib.Data.Option.Basic
import SchemaClasses.Proofs.Yaml.Mappings
import SchemaClasses.Schema.Document

namespace SchemaClasses.Yaml

open Layout (level)

-- ======================================================== before the root

/-- Where a text starts. -/
def Place.start : Place := ⟨0, 0, 0⟩

/-- The tokens before the root. -/
def openingTokens (marked : Bool) : List Token := if marked then [.documentStart] else []

theorem column_lineBreak (p : Place) (fill : List Char) : (p.after (fill ++ ['\n'])).column = 0 := by
  rw [Place.after_append]
  rfl

theorem IsFront.isFill {front : List Char} (h : IsFront front) : IsFill true front true := by
  cases h with
  | nil => exact .nil
  | lines own => exact own.append (.lineBreak .nil)

theorem IsFront.column_after {front : List Char} (h : IsFront front) :
    (Place.start.after front).column = 0 := by
  cases h with
  | nil => rfl
  | lines => exact column_lineBreak _ _

/-- A marker of the start of a document is a token. -/
theorem scan_marker {p : Place} (atEdge : p.column = 0) {rest : List Char}
    (ends : endsWord (placedAt (p.after ['-', '-', '-']) rest) = true) :
    scan (level [] [] 0 true) p ('-' :: '-' :: '-' :: rest) =
      scan (level [.documentStart] [] 0 false) (p.after ['-', '-', '-']) rest := by
  apply scan_of_cutAt
  have begins : BeginsPart '-' := by refine ⟨rfl, ?_, ?_⟩ <;> decide
  have fits : Fits [] 0 p := by
    rintro - c ⟨⟩
  have marker : startsMarkerOf '-' (p.glyph '-' :: placedAt (p.next '-') ('-' :: '-' :: rest)) =
      true := by
    rw [placedAt_cons, placedAt_cons, startsMarkerOf]
    show (p.column == 0 && true && true && true &&
      endsWord (placedAt (p.after ['-', '-', '-']) rest)) = true
    rw [atEdge, ends]
    rfl
  rw [cutAt_level begins fits, Layout.next, if_neg (by simp), if_pos marker, placedAt_cons,
    placedAt_cons]
  rfl

/-- The start of a document ends with a line, and leaves its tokens behind. -/
theorem scan_opening {marked : Bool} {opening : List Char} (h : IsOpening marked opening)
    (rest : List Char) :
    (Place.start.after opening).column = 0 ∧
      scan (level [] [] 0 true) Place.start (opening ++ rest) =
        scan (level (openingTokens marked) [] 0 true) (Place.start.after opening) rest := by
  cases h with
  | unmarked front =>
      exact ⟨front.column_after, scan_fill_level front.isFill [] [] _ rest⟩
  | @marked before fill after front separates =>
      have shape : before ++ '-' :: '-' :: '-' :: fill ++ ['\n'] ++ rest =
          before ++ '-' :: '-' :: '-' :: (fill ++ ['\n'] ++ rest) := by simp
      have place : Place.start.after (before ++ '-' :: '-' :: '-' :: fill ++ ['\n']) =
          ((Place.start.after before).after ['-', '-', '-']).after (fill ++ ['\n']) := by simp
      have filled : Separates (fill ++ ['\n']) true := by
        refine ⟨separates.1.append (.lineBreak .nil), ?_⟩
        cases fill with
        | nil => simp
        | cons c more => exact separates.2
      refine ⟨column_lineBreak _ _, ?_⟩
      rw [shape, place, scan_fill_level front.isFill,
        scan_marker front.column_after (endsWord_of_separates filled (by simp) _ rest)]
      exact scan_fill_level filled.1 [.documentStart] [] _ rest

-- =========================================================== the root

/-- The lines of a root that is a block, up to what follows them. -/
theorem scan_root {marked : Bool} {opening lines : List Char} {column : Nat} {tokens : List Token}
    (hopening : IsOpening marked opening) (scans : ScansLines column lines tokens)
    {fill rest : List Char} {after : Bool} (separates : Separates fill after)
    (ends : ∀ p, EndsBlock column fill after p rest) :
    ∃ p, scan (level [] [] 0 true) Place.start
        (opening ++ List.replicate column ' ' ++ lines ++ (fill ++ rest)) =
      scan (level (tokens.reverse ++ .openBlockMapping :: openingTokens marked) [column] 0 after)
        p rest := by
  have shape : opening ++ List.replicate column ' ' ++ lines ++ (fill ++ rest) =
      opening ++ (List.replicate column ' ' ++ (lines ++ (fill ++ rest))) := by simp
  obtain ⟨atEdge, opened⟩ :=
    scan_opening hopening (List.replicate column ' ' ++ (lines ++ (fill ++ rest)))
  have atColumn :
      ((Place.start.after opening).after (List.replicate column ' ')).column = column := by
    rw [column_spaces, atEdge, Nat.zero_add]
  have opens : OpensBlock column [] [.openBlockMapping] [column] := .first (by simp)
  have read := scans (openingTokens marked) [] _ [] _ fill after rest opens atColumn separates
    (ends _)
  exact ⟨_, by rw [shape, opened, scan_fill_level (isFill_spaces true column), read]; rfl⟩

/-- A document whose root is a block is read as the tokens of the block. -/
theorem scan_document {marked : Bool} {opening lines closing : List Char} {column : Nat}
    {tokens : List Token} (hopening : IsOpening marked opening)
    (scans : ScansLines column lines tokens) (hclosing : IsClosing closing) :
    scan (level [] [] 0 true) Place.start
        (opening ++ List.replicate column ' ' ++ lines ++ closing) =
      some (openingTokens marked ++ (.openBlockMapping :: tokens ++ [.closeBlock])) := by
  have tokensOf : ∀ after, (level (tokens.reverse ++ .openBlockMapping :: openingTokens marked)
      [column] 0 after).finish =
        some (openingTokens marked ++ (.openBlockMapping :: tokens ++ [.closeBlock])) := by
    intro after
    show some (.closeBlock :: (tokens.reverse ++ .openBlockMapping :: openingTokens marked)).reverse
      = _
    cases marked <;> simp [openingTokens]
  cases hclosing with
  | fill separates =>
      obtain ⟨p, read⟩ := scan_root hopening scans separates fun _ => .finished
      rw [List.append_nil] at read
      rw [read, scan_nil, tokensOf]
  | comment separates nonempty oneLine =>
      obtain ⟨p, read⟩ :=
        scan_root hopening scans separates fun _ => .comment nonempty oneLine
      rw [read, scan_lastComment _ _ oneLine, tokensOf]

/-- The tokens of a document whose root is a block spell the node of its pairs. -/
theorem document?_of_adds {tokens : List Token} {pairs : List (Node × Node)}
    (adds : Adds false tokens pairs) (marked : Bool) :
    document? (openingTokens marked ++ (.openBlockMapping :: tokens ++ [.closeBlock])) =
      some (some (.mapping {} pairs)) := by
  have root : ∀ expected, expected = .nodeOrNothing ∨ expected = .node {} →
      rootOf commonHandles expected (.openBlockMapping :: tokens ++ [.closeBlock]) =
        some (.mapping {} pairs) := by
    intro expected either
    obtain ⟨r, start⟩ : ∃ r : Reading, r = { frames := [], expected, handles := commonHandles } :=
      ⟨_, rfl⟩
    have opened : r.step .openBlockMapping = some (r.inMapping false [] [] (awaitsKey false)) := by
      rw [start]
      rcases either with rfl | rfl <;> rfl
    rw [rootOf, ← start, List.append_assoc, List.cons_append, List.foldlM_cons, opened,
      Option.bind_eq_bind, Option.bind_eq_bind, Option.bind_some, List.foldlM_append, adds]
    show (some (Node.mapping {} (pairs.reverse ++ []).reverse)) = _
    rw [List.append_nil, List.reverse_reverse]
  cases marked with
  | false =>
      show (rootOf commonHandles (.node {}) (.openBlockMapping :: tokens ++ [.closeBlock])).bind
        (fun node => some (some node)) = _
      rw [root _ (.inr rfl)]
      rfl
  | true =>
      show (rootOf commonHandles .nodeOrNothing (.openBlockMapping :: tokens ++ [.closeBlock])).bind
        (fun node => some (some node)) = _
      rw [root _ (.inl rfl)]
      rfl

-- ========================================================== documents

/-- The root of a document of a tree is a pair of the container's key and the tree. -/
theorem exists_root_of_spellsDocument {text : List Char} {tree : SchemaTree}
    (h : SpellsDocument text tree) :
    ∃ tokens plain node, scan (level [] [] 0 true) Place.start text = some tokens ∧
      document? tokens = some (some (.mapping {} [(.scalar {} plain containerKey, node)])) ∧
      IsMappingOf (fun definition : Definition => StandsFor 2 definition.value) tree node := by
  obtain @⟨marked, _, _, _, _, _, hopening, root, hclosing⟩ := h
  obtain ⟨tokens, pairs, scans, adds, stand⟩ :=
    exists_tokens_of_spellsBlock readableInBlock_tree root
  obtain _ | ⟨⟨⟨plain, key⟩, mapping⟩, others⟩ := stand
  cases others
  rename_i pair
  obtain ⟨name, node⟩ := pair
  subst key
  exact ⟨_, plain, node, scan_document hopening scans hclosing, document?_of_adds adds marked,
    mapping⟩

/-- Reading a YAML document of a tree gives its entries, in their order. -/
theorem entries?_of_spells {text : String} {tree : SchemaTree} (h : Spells text tree) :
    entries? containerKey text = some (some tree.bindings) := by
  obtain ⟨permitted, spelled⟩ := h
  obtain ⟨tokens, plain, node, scanned, document, mapping⟩ := exists_root_of_spellsDocument spelled
  have read : tokens? text = some tokens := by
    rw [tokens?, glyphs?, if_pos permitted]
    exact scanned
  have bound := contents_mapping (by decide)
    (Source.ofRoot (.mapping {} [(.scalar {} plain containerKey, node)])) mapping
  rw [entries?, read, Option.bind_eq_bind, Option.bind_some, document, Option.bind_eq_bind,
    Option.bind_some]
  dsimp only
  rw [Source.contentsOfPairs, key_scalar, pure_bind, if_pos rfl, bound]
  rfl

end SchemaClasses.Yaml
