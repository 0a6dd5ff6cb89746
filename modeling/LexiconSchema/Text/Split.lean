/-!
# Cutting texts at a separator

Dotted names, slash paths and colon lists are all texts cut at every occurrence
of one character. A text with n separators has n + 1 pieces, so an empty text
still has one (empty) piece and empty pieces are never dropped.

Main statements: joining the pieces of a text gives the text back, and cutting a
join of separator-free pieces gives exactly those pieces.
-/

namespace LexiconSchema.Text

/-- The pieces between the occurrences of a separator, from left to right. The
last branch's empty case never arises: there is always a first piece. -/
def pieces (separator : Char) : List Char → List (List Char)
  | [] => [[]]
  | c :: rest =>
    if c = separator then [] :: pieces separator rest
    else match pieces separator rest with
      | [] => [[c]]
      | piece :: others => (c :: piece) :: others

/-- What stands before and after the first occurrence of a separator, if there
is one. The separator itself belongs to neither side. -/
def cutFirst? (separator : Char) : List Char → Option (List Char × List Char)
  | [] => none
  | c :: rest =>
    if c = separator then some ([], rest)
    else (cutFirst? separator rest).map fun (before, after) => (c :: before, after)

/-- The rest of a text behind a given opening, if the text opens with it. -/
def behind? : List Char → List Char → Option (List Char)
  | [], text => some text
  | _ :: _, [] => none
  | c :: opening, d :: text => if c = d then behind? opening text else none

/-- `pieces` on strings. -/
def split (separator : Char) (text : String) : List String :=
  (pieces separator text.toList).map String.ofList

/-- Writes the parts one after the other with the separator between neighbours. -/
def join (separator : Char) (parts : List String) : String :=
  (String.singleton separator).intercalate parts

/-- `cutFirst?` on strings. -/
def cut? (separator : Char) (text : String) : Option (String × String) :=
  (cutFirst? separator text.toList).map fun (before, after) =>
    (String.ofList before, String.ofList after)

/-- The rest of a string behind a given opening, if the string opens with it. -/
def afterOpening? (opening text : String) : Option String :=
  (behind? opening.toList text.toList).map String.ofList

/-- The rest of a string before a given ending, if the string ends with it. -/
def beforeEnding? (ending text : String) : Option String :=
  (behind? ending.toList.reverse text.toList.reverse).map fun rest => String.ofList rest.reverse

/-- There is always a first piece. -/
theorem pieces_ne_nil (separator : Char) (text : List Char) : pieces separator text ≠ [] := by
  cases text with
  | nil => simp [pieces]
  | cons c rest =>
    unfold pieces
    split
    · simp
    · split <;> simp

/-- Away from a separator, a character joins the first piece of the rest. -/
theorem pieces_cons_of_ne {separator c : Char} (rest : List Char) (different : c ≠ separator) :
    ∃ piece others, pieces separator rest = piece :: others ∧
      pieces separator (c :: rest) = (c :: piece) :: others := by
  cases shape : pieces separator rest with
  | nil => exact absurd shape (pieces_ne_nil separator rest)
  | cons piece others => exact ⟨piece, others, rfl, by simp [pieces, different, shape]⟩

/-- Nothing is lost: the pieces with the separator between them are the text. -/
theorem intercalate_pieces (separator : Char) (text : List Char) :
    [separator].intercalate (pieces separator text) = text := by
  induction text with
  | nil => simp [pieces, List.intercalate]
  | cons c rest inductionHypothesis =>
    by_cases same : c = separator
    · subst same
      cases shape : pieces c rest with
      | nil => exact absurd shape (pieces_ne_nil c rest)
      | cons piece others =>
        rw [shape] at inductionHypothesis
        simp only [pieces, if_true, shape]
        simp only [List.intercalate, List.intersperse, List.flatten_cons, List.nil_append,
          List.singleton_append] at inductionHypothesis ⊢
        rw [inductionHypothesis]
    · obtain ⟨piece, others, shape, extended⟩ := pieces_cons_of_ne rest same
      rw [extended]
      rw [shape] at inductionHypothesis
      cases others with
      | nil =>
        simp only [List.intercalate, List.intersperse, List.flatten_cons, List.flatten_nil,
          List.append_nil] at inductionHypothesis ⊢
        rw [inductionHypothesis]
      | cons next later =>
        simp only [List.intercalate, List.intersperse, List.flatten_cons,
          List.cons_append] at inductionHypothesis ⊢
        rw [inductionHypothesis]

/-- No piece holds the separator. -/
theorem not_mem_of_mem_pieces {separator : Char} {text piece : List Char}
    (member : piece ∈ pieces separator text) : separator ∉ piece := by
  induction text generalizing piece with
  | nil => simp_all [pieces]
  | cons c rest inductionHypothesis =>
    by_cases same : c = separator
    · simp only [pieces, same, if_true, List.mem_cons] at member
      rcases member with rfl | member
      · simp
      · exact inductionHypothesis member
    · obtain ⟨first, others, shape, extended⟩ := pieces_cons_of_ne rest same
      rw [extended] at member
      rcases List.mem_cons.mp member with rfl | member
      · have clean : separator ∉ first := inductionHypothesis (by simp [shape])
        simp only [List.mem_cons, not_or]
        exact ⟨fun equal => same equal.symm, clean⟩
      · exact inductionHypothesis (by simp [shape, member])

/-- A text without the separator is its own only piece. -/
theorem pieces_of_not_mem {separator : Char} {text : List Char} (absent : separator ∉ text) :
    pieces separator text = [text] := by
  induction text with
  | nil => rfl
  | cons c rest inductionHypothesis =>
    simp only [List.mem_cons, not_or] at absent
    simp [pieces, Ne.symm absent.1, inductionHypothesis absent.2]

/-- Up to its first separator a text contributes one piece, behind it the rest
contributes its own. -/
theorem pieces_append_separator {separator : Char} {front : List Char} (rest : List Char)
    (absent : separator ∉ front) :
    pieces separator (front ++ separator :: rest) = front :: pieces separator rest := by
  induction front with
  | nil => simp [pieces]
  | cons c front inductionHypothesis =>
    simp only [List.mem_cons, not_or] at absent
    simp [pieces, Ne.symm absent.1, inductionHypothesis absent.2]

/-- Cutting a join of separator-free pieces gives exactly those pieces. -/
theorem pieces_intercalate {separator : Char} {parts : List (List Char)} (present : parts ≠ [])
    (clean : ∀ part ∈ parts, separator ∉ part) :
    pieces separator ([separator].intercalate parts) = parts := by
  induction parts with
  | nil => exact absurd rfl present
  | cons part others inductionHypothesis =>
    cases others with
    | nil => simpa [List.intercalate] using pieces_of_not_mem (clean part (by simp))
    | cons next later =>
      have rest := inductionHypothesis (by simp) (fun p member => clean p (by simp [member]))
      have unfolded : [separator].intercalate (part :: next :: later) =
          part ++ separator :: [separator].intercalate (next :: later) := by
        simp [List.intercalate]
      rw [unfolded, pieces_append_separator _ (clean part (by simp)), rest]

/-- Joining the parts of a text gives the text back. -/
theorem join_split (separator : Char) (text : String) :
    join separator (split separator text) = text := by
  apply String.toList_inj.mp
  simp [join, split, String.toList_intercalate, List.map_map, Function.comp_def,
    intercalate_pieces]

/-- Cutting a join of separator-free parts gives exactly those parts. -/
theorem split_join {separator : Char} {parts : List String} (present : parts ≠ [])
    (clean : ∀ part ∈ parts, separator ∉ part.toList) :
    split separator (join separator parts) = parts := by
  have cut : pieces separator ([separator].intercalate (parts.map String.toList)) =
      parts.map String.toList :=
    pieces_intercalate (by simpa using present) (by simpa using clean)
  simp [join, split, String.toList_intercalate, cut, List.map_map, Function.comp_def]

end LexiconSchema.Text
