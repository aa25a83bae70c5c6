import Hostkeeper.Text.Blank
import Mathlib.Data.List.TakeWhile

/-! Texts made of lines. A line that no blank stands around is read back as it was written, whatever stands
on the other lines, and no other line is read from any text. -/
namespace Hostkeeper.Text

theorem splitWhen_eq_splitOnP (cut : Char → Bool) (cs : List Char) : splitWhen cut cs = cs.splitOnP cut := by
  induction cs with
  | nil => exact List.splitOnP_nil.symm
  | cons c rest ih =>
    rw [splitWhen,List.splitOnP_cons_eq_if_modifyHead,ih]
    split
    · rfl
    · have filled := List.splitOnP_ne_nil cut rest
      cases pieces : rest.splitOnP cut with
      | nil => exact absurd pieces filled
      | cons piece more => rfl

theorem splitOn_of_absent {separator : Char} {cs : List Char} (absent : separator ∉ cs) :
    cs.splitOn separator = [cs] := by
  refine List.splitOnP_eq_singleton fun c member => ?_
  have other : c ≠ separator := fun same => absent (same ▸ member)
  simpa using other

/-- Lines one after another, each with its line feed. -/
def ofLines (lines : List String) : String := lines.foldr (fun line rest => line ++ "\n" ++ rest) ""

/-- A text that is one line and is not changed by trimming. -/
structure IsLine (line : String) : Prop where
  filled : line ≠ ""
  trimmed : trim line = line
  single : '\n' ∉ line.toList

section Ends

variable {cs : List Char} {c : Char}

private theorem not_blank_of_head? (first : (cs.dropWhile isBlank).head? = some c) : isBlank c = false := by
  have head := List.head?_dropWhile_not isBlank cs
  rw [first] at head
  exact head

private theorem head?_strip (first : (strip cs).head? = some c) : isBlank c = false := by
  have front : strip cs <+: cs.dropWhile isBlank := by
    have back := (List.dropWhile_suffix (l := (cs.dropWhile isBlank).reverse) isBlank).reverse
    rwa [List.reverse_reverse] at back
  obtain ⟨more,whole⟩ := front
  have head : (cs.dropWhile isBlank).head? = some c := by
    rw [← whole,List.head?_append,first]
    rfl
  exact not_blank_of_head? head

private theorem getLast?_strip (last : (strip cs).getLast? = some c) : isBlank c = false := by
  rw [strip,dropEndWhile,List.getLast?_reverse] at last
  exact not_blank_of_head? last

private theorem strip_subset (cs : List Char) : strip cs ⊆ cs := by
  intro c member
  rw [strip,dropEndWhile,List.mem_reverse] at member
  have inside := (List.dropWhile_sublist isBlank).subset member
  exact (List.dropWhile_sublist isBlank).subset (List.mem_reverse.mp inside)

end Ends

section Trimming

theorem strip_eq_nil_iff (cs : List Char) : strip cs = [] ↔ ∀ c ∈ cs, isBlank c = true := by
  rw [strip,dropEndWhile,List.reverse_eq_nil_iff,List.dropWhile_eq_nil_iff]
  constructor
  · intro blank
    rw [← List.dropWhile_eq_nil_iff]
    cases kept : cs.dropWhile isBlank with
    | nil => rfl
    | cons c more =>
      have visible : isBlank c = false := not_blank_of_head? (by rw [kept]; rfl)
      have hidden : isBlank c = true := blank c (by simp [kept])
      cases visible.symm.trans hidden
  · intro blank c member
    exact blank c ((List.dropWhile_sublist isBlank).subset (List.mem_reverse.mp member))

theorem trimmed?_eq_none_iff (s : String) : trimmed? s = none ↔ ∀ c ∈ s.toList, isBlank c = true := by
  rw [← strip_eq_nil_iff,trimmed?,trim]
  by_cases empty : strip s.toList = [] <;> simp [empty]

/-- A text that may be missing is trimmed to none where it is missing or blank. -/
theorem bind_trimmed?_eq_none_iff (value : Option String) :
    value.bind trimmed? = none ↔ ∀ s ∈ value, ∀ c ∈ s.toList, isBlank c = true := by
  cases value with
  | none => simp
  | some s => simp [trimmed?_eq_none_iff]

theorem trimmed?_eq_some_iff {s t : String} : trimmed? s = some t ↔ t ≠ "" ∧ trim s = t := by
  rw [trimmed?]
  by_cases empty : trim s = ""
  · rw [if_pos (by simpa using empty),empty]
    constructor
    · intro impossible
      cases impossible
    · rintro ⟨filled,same⟩
      exact absurd same.symm filled
  · rw [if_neg (by simpa using empty),Option.some.injEq]
    constructor
    · rintro rfl
      exact ⟨empty,rfl⟩
    · exact And.right

theorem mem_filledLines_iff {text line : String} :
    line ∈ filledLines text ↔ line ≠ "" ∧ ∃ raw ∈ lines text, trim raw = line := by
  rw [filledLines,List.mem_filterMap]
  simp only [trimmed?_eq_some_iff]
  constructor
  · rintro ⟨raw,member,filled,same⟩
    exact ⟨filled,raw,member,same⟩
  · rintro ⟨filled,raw,member,same⟩
    exact ⟨raw,member,filled,same⟩

end Trimming

section Pieces

private def withoutReturn (piece : List Char) : List Char :=
  if piece.getLast? = some '\r' then piece.dropLast else piece

private theorem endLines_append (first : List (List Char)) {second : List (List Char)} (more : second ≠ []) :
    endLines (first ++ second) = first.map withoutReturn ++ endLines second := by
  induction first with
  | nil => rfl
  | cons piece rest ih =>
    obtain ⟨next,later,found⟩ := List.exists_cons_of_ne_nil (List.append_ne_nil_of_right_ne_nil rest more)
    rw [List.cons_append,List.map_cons,List.cons_append,← ih,found]
    rfl

private theorem lines_append (line : List Char) (rest : List Char) :
    endLines (splitWhen (· == '\n') (line ++ '\n' :: rest)) =
      (splitWhen (· == '\n') line).map withoutReturn ++ endLines (splitWhen (· == '\n') rest) := by
  simp only [splitWhen_eq_splitOnP]
  rw [List.splitOnP_append_cons _ _ (by simp),endLines_append _ (List.splitOnP_ne_nil _ _)]

private theorem withoutReturn_of_isLine {line : String} (plain : IsLine line) :
    (splitWhen (· == '\n') line.toList).map withoutReturn = [line.toList] := by
  have whole : line.toList.splitOnP (· == '\n') = [line.toList] := splitOn_of_absent plain.single
  rw [splitWhen_eq_splitOnP,whole,List.map_singleton,withoutReturn,if_neg]
  intro last
  have stripped : strip line.toList = line.toList := by simpa [trim] using congrArg String.toList plain.trimmed
  have filled := getLast?_strip (stripped.symm ▸ last)
  revert filled
  decide

end Pieces

theorem toList_ofLines_cons (line : String) (rest : List String) :
    (ofLines (line :: rest)).toList = line.toList ++ '\n' :: (ofLines rest).toList := by
  simp [ofLines]

theorem mem_filledLines_ofLines {lines : List String} {line : String} (member : line ∈ lines) (plain : IsLine line) :
    line ∈ filledLines (ofLines lines) := by
  have read : line.toList ∈ endLines (splitWhen (· == '\n') (ofLines lines).toList) := by
    induction lines with
    | nil => cases member
    | cons first rest ih =>
      rw [toList_ofLines_cons,lines_append,List.mem_append]
      rcases List.mem_cons.mp member with rfl | later
      · exact .inl (withoutReturn_of_isLine plain ▸ List.mem_singleton.mpr rfl)
      · exact .inr (ih later)
  exact mem_filledLines_iff.mpr ⟨plain.filled,line,List.mem_map.mpr ⟨_,read,String.ofList_toList⟩,plain.trimmed⟩

/-- A text without a line feed is a line if no blank is at its start or at its end. -/
theorem isLine_of_ends {line : String} (filled : line ≠ "") (single : '\n' ∉ line.toList)
    (start : ∀ c, line.toList.head? = some c → isBlank c = false)
    (last : ∀ c, line.toList.getLast? = some c → isBlank c = false) : IsLine line := by
  have kept {cs : List Char} (free : ∀ c, cs.head? = some c → isBlank c = false) : cs.dropWhile isBlank = cs := by
    cases cs with
    | nil => rfl
    | cons c rest => simp [free c rfl]
  refine ⟨filled,?_,single⟩
  rw [trim,strip,kept start,dropEndWhile,kept (by simpa using last),List.reverse_reverse,String.ofList_toList]

theorem isLine_of_unblank {word : String} (filled : word ≠ "") (unblank : ∀ c ∈ word.toList, isBlank c = false) :
    IsLine word := by
  refine isLine_of_ends filled (fun member => ?_) (fun c found => ?_) (fun c found => ?_)
  · exact absurd (unblank _ member) (by decide)
  · exact unblank c (List.mem_of_head? found)
  · exact unblank c (List.mem_of_getLast? found)

section Read

private theorem not_cut_of_mem_splitWhen {cut : Char → Bool} {cs piece : List Char}
    (member : piece ∈ splitWhen cut cs) :
    ∀ c ∈ piece, cut c = false := by
  induction cs generalizing piece with
  | nil =>
    obtain rfl := List.mem_singleton.mp member
    exact fun c inside => absurd inside List.not_mem_nil
  | cons first rest ih =>
    rw [splitWhen] at member
    split at member
    next =>
      rcases List.mem_cons.mp member with rfl | later
      · exact fun c inside => absurd inside List.not_mem_nil
      · exact ih later
    next uncut =>
      split at member
      next =>
        obtain rfl := List.mem_singleton.mp member
        simpa using uncut
      next head pieces found =>
        rcases List.mem_cons.mp member with rfl | later
        · have own := ih (found ▸ List.mem_cons_self)
          simpa [uncut] using own
        · exact ih (found ▸ List.mem_cons_of_mem head later)

private theorem exists_of_mem_endLines {pieces : List (List Char)} {line : List Char}
    (member : line ∈ endLines pieces) :
    ∃ piece ∈ pieces, line ⊆ piece := by
  induction pieces with
  | nil => cases member
  | cons first rest ih =>
    cases rest with
    | nil =>
      rw [endLines] at member
      split at member
      · cases member
      · exact ⟨first,List.mem_singleton_self first,List.mem_singleton.mp member ▸ List.Subset.refl _⟩
    | cons second more =>
      rw [endLines] at member
      · rcases List.mem_cons.mp member with rfl | later
        · refine ⟨first,List.mem_cons_self,?_⟩
          split
          · exact List.dropLast_subset first
          · exact List.Subset.refl _
        · obtain ⟨piece,inside,part⟩ := ih later
          exact ⟨piece,List.mem_cons_of_mem _ inside,part⟩
      · simp

/-- Whatever a text is, its lines are read without line feeds and without blanks around them. -/
theorem isLine_of_mem_filledLines {text line : String} (member : line ∈ filledLines text) : IsLine line := by
  obtain ⟨filled,whole,inside,rfl⟩ := mem_filledLines_iff.mp member
  obtain ⟨cs,piece,rfl⟩ := List.mem_map.mp inside
  obtain ⟨source,among,part⟩ := exists_of_mem_endLines piece
  have stripped : (trim (String.ofList cs)).toList = strip cs := by simp [trim]
  refine isLine_of_ends filled ?_ ?_ ?_ <;> rw [stripped]
  · intro feed
    simpa using not_cut_of_mem_splitWhen among _ (part (strip_subset cs feed))
  · exact fun c => head?_strip
  · exact fun c => getLast?_strip

end Read

end Hostkeeper.Text
