import LexiconSchema.Text.Split

/-!
# What a text is cut into

A text that is cut at its first separator, or after an opening, or before an ending, is put
together from what it was cut into, and from nothing else: each cut is described by the ways
in which the text can be written as a sum. A text that is cut everywhere is the join of its
parts, and a join is as large as its parts and the separators between them.
-/

namespace LexiconSchema.Text

/-! Cuts at the first separator. -/

/-- Without the separator there is no first occurrence of it. -/
theorem cutFirst?_of_not_mem {separator : Char} {text : List Char} (absent : separator ∉ text) :
    cutFirst? separator text = none := by
  induction text with
  | nil => rfl
  | cons c rest inductionHypothesis =>
    simp only [List.mem_cons, not_or] at absent
    simp [cutFirst?, Ne.symm absent.1, inductionHypothesis absent.2]

/-- A text is cut at its first separator. -/
theorem cutFirst?_append {separator : Char} {front : List Char} (rest : List Char)
    (absent : separator ∉ front) :
    cutFirst? separator (front ++ separator :: rest) = some (front, rest) := by
  induction front with
  | nil => simp [cutFirst?]
  | cons c front inductionHypothesis =>
    simp only [List.mem_cons, not_or] at absent
    simp [cutFirst?, Ne.symm absent.1, inductionHypothesis absent.2]

/-- Every text is without the separator, or it has a first one. -/
theorem cutFirst?_cases (separator : Char) (text : List Char) :
    separator ∉ text ∨ ∃ front rest, separator ∉ front ∧ text = front ++ separator :: rest := by
  induction text with
  | nil => exact .inl List.not_mem_nil
  | cons c later inductionHypothesis =>
    by_cases same : c = separator
    · subst same
      exact .inr ⟨[], later, List.not_mem_nil, rfl⟩
    · rcases inductionHypothesis with absent | ⟨front, rest, absent, rfl⟩
      · refine .inl fun member => ?_
        rcases List.mem_cons.mp member with equal | inside
        · exact same equal.symm
        · exact absent inside
      · refine .inr ⟨c :: front, rest, fun member => ?_, rfl⟩
        rcases List.mem_cons.mp member with equal | inside
        · exact same equal.symm
        · exact absent inside

section
variable {separator : Char} {text before after : String}

/-- A text is cut into two exactly if these stand around its first separator. -/
theorem cut?_eq_some_iff :
    cut? separator text = some (before, after) ↔
      text = before ++ String.singleton separator ++ after ∧ separator ∉ before.toList := by
  constructor
  · intro found
    rcases cutFirst?_cases separator text.toList with absent | ⟨front, rest, absent, shape⟩
    · simp [cut?, cutFirst?_of_not_mem absent] at found
    · simp only [cut?, shape, cutFirst?_append rest absent, Option.map_some, Option.some.injEq,
        Prod.mk.injEq] at found
      obtain ⟨rfl, rfl⟩ := found
      refine ⟨String.toList_inj.mp ?_, by simpa using absent⟩
      simp [shape]
  · rintro ⟨rfl, absent⟩
    simp [cut?, cutFirst?_append after.toList absent]

/-- A text is not cut exactly if it has no separator. -/
theorem cut?_eq_none_iff : cut? separator text = none ↔ separator ∉ text.toList := by
  constructor
  · intro uncut
    rcases cutFirst?_cases separator text.toList with absent | ⟨front, rest, absent, shape⟩
    · exact absent
    · simp [cut?, shape, cutFirst?_append rest absent] at uncut
  · intro absent
    simp [cut?, cutFirst?_of_not_mem absent]

end

/-! Openings and endings. -/

/-- What stands behind an opening stands behind it in the text. -/
theorem append_of_behind? {opening text rest : List Char}
    (found : behind? opening text = some rest) :
    text = opening ++ rest := by
  induction opening generalizing text with
  | nil => simpa [behind?] using found
  | cons c opening inductionHypothesis =>
    cases text with
    | nil => simp [behind?] at found
    | cons d text =>
      by_cases same : c = d
      · simp only [behind?, same, if_true] at found
        simp [same, inductionHypothesis found]
      · simp [behind?, same] at found

/-- Behind an opening stands what was put there. -/
theorem behind?_append (opening rest : List Char) : behind? opening (opening ++ rest) = some rest := by
  induction opening with
  | nil => rfl
  | cons c opening inductionHypothesis => simp [behind?, inductionHypothesis]

/-- Something stands behind an opening exactly if it makes up the text with it. -/
theorem afterOpening?_eq_some_iff {opening text rest : String} :
    afterOpening? opening text = some rest ↔ text = opening ++ rest := by
  constructor
  · intro found
    obtain ⟨characters, behind, rfl⟩ := Option.map_eq_some_iff.mp found
    apply String.toList_inj.mp
    simp [append_of_behind? behind]
  · rintro rfl
    simp [afterOpening?, behind?_append]

/-- Something stands before an ending exactly if it makes up the text with it. -/
theorem beforeEnding?_eq_some_iff {ending text rest : String} :
    beforeEnding? ending text = some rest ↔ text = rest ++ ending := by
  constructor
  · intro found
    obtain ⟨characters, behind, rfl⟩ := Option.map_eq_some_iff.mp found
    have reversed := congrArg List.reverse (append_of_behind? behind)
    apply String.toList_inj.mp
    simpa using reversed
  · rintro rfl
    simp [beforeEnding?, behind?_append]

/-- Nothing stands before an ending exactly if the text does not end with it. -/
theorem beforeEnding?_eq_none_iff {ending text : String} :
    beforeEnding? ending text = none ↔ ∀ rest, text ≠ rest ++ ending := by
  rw [Option.eq_none_iff_forall_ne_some]
  exact forall_congr' fun rest => not_congr beforeEnding?_eq_some_iff

/-! Parts and joins. -/

/-- There is always a first part. -/
theorem split_ne_nil (separator : Char) (text : String) : split separator text ≠ [] := by
  simp [split, pieces_ne_nil]

/-- No part holds the separator. -/
theorem not_mem_of_mem_split {separator : Char} {text part : String}
    (member : part ∈ split separator text) : separator ∉ part.toList := by
  obtain ⟨piece, inside, rfl⟩ := List.mem_map.mp member
  simpa using not_mem_of_mem_pieces inside

/-- A text without the separator is its own only part. -/
theorem split_of_whole {separator : Char} {text : String} (whole : separator ∉ text.toList) :
    split separator text = [text] := by
  simp [split, pieces_of_not_mem whole]

section
variable {separator : Char} {parts others : List String}

/-- A join of more parts goes on behind a separator. -/
theorem join_append (present : parts ≠ []) (more : others ≠ []) :
    join separator (parts ++ others) =
      join separator parts ++ String.singleton separator ++ join separator others := by
  induction parts with
  | nil => exact absurd rfl present
  | cons part rest inductionHypothesis =>
    cases rest with
    | nil =>
      obtain ⟨next, later, rfl⟩ := List.exists_cons_of_ne_nil more
      simp [join]
    | cons next later =>
      have onward := inductionHypothesis (List.cons_ne_nil next later)
      simp only [join, List.cons_append, String.intercalate_cons_cons] at onward ⊢
      rw [onward]
      simp only [String.append_assoc]

/-- The parts on both sides of a separator are all the parts. -/
theorem split_append (front back : String) :
    split separator (front ++ String.singleton separator ++ back) =
      split separator front ++ split separator back := by
  have joined : join separator (split separator front ++ split separator back) =
      front ++ String.singleton separator ++ back := by
    rw [join_append (split_ne_nil separator front) (split_ne_nil separator back), join_split,
      join_split]
  rw [← joined]
  apply split_join (by simp [split_ne_nil])
  intro part member
  rcases List.mem_append.mp member with before | behind
  · exact not_mem_of_mem_split before
  · exact not_mem_of_mem_split behind

/-- A character of a join is a separator or a part's own. -/
theorem mem_join {c : Char} (member : c ∈ (join separator parts).toList) :
    c = separator ∨ ∃ part ∈ parts, c ∈ part.toList := by
  induction parts with
  | nil => simp [join] at member
  | cons part others inductionHypothesis =>
    cases others with
    | nil => exact .inr ⟨part, List.mem_singleton.mpr rfl, by simpa [join] using member⟩
    | cons next later =>
      simp only [join, String.intercalate_cons_cons, String.toList_append, List.mem_append,
        String.toList_singleton, List.mem_singleton] at member
      rcases member with (inside | between) | later
      · exact .inr ⟨part, List.mem_cons_self, inside⟩
      · exact .inl between
      · rcases inductionHypothesis later with between | ⟨other, among, inside⟩
        · exact .inl between
        · exact .inr ⟨other, List.mem_cons_of_mem part among, inside⟩

/-- A join is as large as its parts and the separator between them. -/
theorem utf8ByteSize_join_append (present : parts ≠ []) (more : others ≠ []) :
    (join separator (parts ++ others)).utf8ByteSize =
      (join separator parts).utf8ByteSize + separator.utf8Size +
        (join separator others).utf8ByteSize := by
  rw [join_append present more, String.utf8ByteSize_append, String.utf8ByteSize_append,
    String.utf8ByteSize_singleton]

/-- A join is as large as the join of its parts in reverse order. -/
theorem utf8ByteSize_join_reverse :
    (join separator parts.reverse).utf8ByteSize = (join separator parts).utf8ByteSize := by
  induction parts with
  | nil => rfl
  | cons part rest inductionHypothesis =>
    by_cases last : rest = []
    · rw [last, List.reverse_singleton]
    · have forward := @utf8ByteSize_join_append separator [part] rest (List.cons_ne_nil part []) last
      have backward := @utf8ByteSize_join_append separator rest.reverse [part]
        (List.reverse_ne_nil_iff.mpr last) (List.cons_ne_nil part [])
      rw [List.singleton_append] at forward
      rw [List.reverse_cons]
      omega

/-- Separators of one size make joins of one size. -/
theorem utf8ByteSize_join_congr {other : Char} (same : separator.utf8Size = other.utf8Size) :
    (join separator parts).utf8ByteSize = (join other parts).utf8ByteSize := by
  induction parts with
  | nil => rfl
  | cons part rest inductionHypothesis =>
    by_cases last : rest = []
    · rw [last]
      simp [join]
    · have left := @utf8ByteSize_join_append separator [part] rest (List.cons_ne_nil part []) last
      have right := @utf8ByteSize_join_append other [part] rest (List.cons_ne_nil part []) last
      simp only [List.singleton_append, join, String.intercalate_singleton] at left right
      simp only [join] at inductionHypothesis ⊢
      omega

end

end LexiconSchema.Text
