import HostReadiness.Proofs.Paragraph.Lines

/-! The words of a text and the gaps between them. -/

namespace HostReadiness.Paragraph
open Text

/-- The words of a text, which are its longest runs of characters that are no blanks, each with the
number of blanks before it. Before the text itself there stand `gap` blanks. -/
def spacedWords (gap : Nat) : List Char → List (Nat × List Char)
  | [] => []
  | c :: rest =>
    if isBlank c then spacedWords (gap + 1) rest
    else if rest.head?.all isBlank then (gap, [c]) :: spacedWords 0 rest
    else (spacedWords gap rest).modifyHead fun (gap, word) => (gap, c :: word)

def words (text : List Char) : List (List Char) :=
  (spacedWords 0 text).map Prod.snd

example : spacedWords 0 "\t ab  c-d ".toList = [(2, ['a', 'b']), (2, ['c', '-', 'd'])] := by decide

theorem map_modifyHead_cons (c : Char) (words : List (Nat × List Char)) :
    (words.modifyHead fun (gap, word) => (gap, c :: word)).map Prod.snd =
      (words.map Prod.snd).modifyHead (c :: ·) := by
  cases words with
  | nil => rfl
  | cons first rest => rfl

/-- The words are the same whatever stands before the text. -/
theorem map_spacedWords (gap : Nat) (text : List Char) :
    (spacedWords gap text).map Prod.snd = words text := by
  rw [words]
  generalize 0 = other
  induction text generalizing gap other with
  | nil => rfl
  | cons c rest ih =>
    rw [spacedWords, spacedWords]
    split
    · exact ih _ _
    · split
      · rfl
      · rw [map_modifyHead_cons, map_modifyHead_cons, ih]

theorem words_cons (c : Char) (rest : List Char) :
    words (c :: rest) =
      if isBlank c then words rest
      else if rest.head?.all isBlank then [c] :: words rest
      else (words rest).modifyHead (c :: ·) := by
  rw [words, spacedWords]
  split
  · exact map_spacedWords 1 rest
  · split
    · rfl
    · exact map_modifyHead_cons c _

theorem spacedWords_blanks {blanks : List Char} (blank : isAllBlank blanks = true) (gap : Nat)
    (rest : List Char) :
    spacedWords gap (blanks ++ rest) = spacedWords (gap + blanks.length) rest := by
  induction blanks generalizing gap with
  | nil => rfl
  | cons c more ih =>
    rw [isAllBlank, List.all_cons, Bool.and_eq_true] at blank
    rw [List.cons_append, spacedWords, if_pos blank.1, ih blank.2, List.length_cons]
    congr 1
    omega

theorem words_blanks {blanks : List Char} (blank : isAllBlank blanks = true) (rest : List Char) :
    words (blanks ++ rest) = words rest := by
  rw [words, spacedWords_blanks blank, map_spacedWords]

/-- What is not blank up to the next blank is one word. -/
theorem spacedWords_word {word rest : List Char} (full : word ≠ [])
    (visible : ∀ c ∈ word, isBlank c = false) (blank : ∀ c ∈ rest.head?, isBlank c = true) (gap : Nat) :
    spacedWords gap (word ++ rest) = (gap, word) :: spacedWords 0 rest := by
  induction word with
  | nil => exact absurd rfl full
  | cons c more ih =>
    rw [List.forall_mem_cons] at visible
    rw [List.cons_append, spacedWords, visible.1, if_neg Bool.false_ne_true]
    cases more with
    | nil =>
      have ends : rest.head?.all isBlank = true := by
        rw [Option.all_eq_true]
        exact blank
      rw [List.nil_append, if_pos ends]
    | cons d more =>
      have goesOn : isBlank d = false := visible.2 d List.mem_cons_self
      rw [ih (List.cons_ne_nil _ _) visible.2, if_neg (by simp [goesOn])]
      rfl

/-- The gap before the first word is no less than what stands before the text. -/
theorem le_of_mem_head?_spacedWords (gap : Nat) (text : List Char) :
    ∀ first ∈ (spacedWords gap text).head?, gap ≤ first.1 := by
  induction text generalizing gap with
  | nil => nofun
  | cons c rest ih =>
    rw [spacedWords]
    split
    · intro first member
      exact Nat.le_of_succ_le (ih (gap + 1) first member)
    · split
      · rintro first ⟨⟩
        exact Nat.le_refl gap
      · have later := ih gap
        cases found : spacedWords gap rest with
        | nil => nofun
        | cons next others =>
          rw [found] at later
          rintro first ⟨⟩
          exact later next rfl

/-! Spacing a text -/

theorem isBlank_head?_expandTabs (column : Nat) (text : List Char) :
    (expandTabs column text).head?.all isBlank = text.head?.all isBlank := by
  cases text with
  | nil => rfl
  | cons c rest =>
    rw [expandTabs]
    split
    · rename_i tab
      obtain ⟨more, count⟩ : ∃ more, 8 - column % 8 = more + 1 :=
        Nat.exists_eq_add_of_le' (by omega)
      rw [count, tab]
      rfl
    · rfl

theorem words_expandTabs (column : Nat) (text : List Char) :
    words (expandTabs column text) = words text := by
  induction text generalizing column with
  | nil => rfl
  | cons c rest ih =>
    rw [expandTabs]
    split
    · rename_i tab
      rw [words_blanks (isAllBlank_replicate_space _), ih, words_cons, tab]
      rfl
    · rw [words_cons, words_cons, isBlank_head?_expandTabs, ih]

/-- Spacing a text moves its words, but changes none. -/
theorem words_spaced (text : List Char) : words (spaced text) = words text := by
  rw [spaced, ← words_expandTabs 0 text]
  induction expandTabs 0 text with
  | nil => rfl
  | cons c rest ih =>
    have sameBlank (d : Char) : isBlank (if isAsciiBlank d then ' ' else d) = isBlank d := by
      split
      · rename_i blank
        rw [isBlank_of_isAsciiBlank blank]
        rfl
      · rfl
    have head : (rest.map fun d => if isAsciiBlank d then ' ' else d).head?.all isBlank =
        rest.head?.all isBlank := by
      rw [List.head?_map, Option.all_map]
      exact congrArg (rest.head?.all ·) (funext sameBlank)
    rw [List.map_cons, words_cons, words_cons, sameBlank, head, ih]
    split
    · rfl
    · rename_i shown
      have stays : isAsciiBlank c = false :=
        Bool.eq_false_iff.mpr fun blank => shown (isBlank_of_isAsciiBlank blank)
      rw [stays]
      rfl

end HostReadiness.Paragraph
