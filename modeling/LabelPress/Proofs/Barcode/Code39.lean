import LabelPress.Barcode.Payload
import LabelPress.Proofs.Text.ReadIntegers

/-
  Payloads of Code 39.

  Code 39 has symbols for 43 characters.  A text of these is
  accepted, and so is one with blanks of any kind among them,
  although the space is the only blank that has a symbol.

  Main declarations:
    * `code39Alphabet`, `IsCode39Text`
    * `isCode39_iff`
    * `Payload.HasForeignBlanks`
    * `Payload.isAccepted_code39_iff`
-/

namespace LabelPress

------------------------------------------------------------
-- The Alphabet
------------------------------------------------------------

/- The characters that Code 39 has symbols for. -/
def code39Alphabet :
    Text :=
  "0123456789ABCDEFGHIJKLMNOPQRSTUVWXYZ-. $/+%"

/- Whether a text can be written in the symbols of Code 39. -/
structure IsCode39Text
    (t : Text) :
    Prop where
  nonempty : t ≠ []
  symbols : ∀ c ∈ t, c ∈ code39Alphabet

section Characters

variable {c : CodePoint}

theorem isCode39_of_mem_code39Alphabet
    (hSymbol : c ∈ code39Alphabet) :
    isCode39 c = true := by
  have hAll : ∀ d ∈ code39Alphabet, isCode39 d = true := by
    decide
  exact hAll c hSymbol

/- A capital letter is one of 26. -/
theorem mem_code39Alphabet_of_isUpper
    (hUpper : c.isUpper = true) :
    c ∈ code39Alphabet := by
  have hLetters :
      ∀ k : Fin 26, CodePoint.ofNat (65 + k) ∈ code39Alphabet := by
    decide
  rw [CodePoint.isUpper, Bool.and_eq_true, decide_eq_true_eq,
    decide_eq_true_eq] at hUpper
  have hLow : 65 ≤ c.toNat := hUpper.1
  have hHigh : c.toNat ≤ 90 := hUpper.2
  rcases Text.exists_of_range hLow (by omega : _ < 65 + 26) with
    ⟨k, hk⟩
  rw [hk]
  exact hLetters k

theorem mem_code39Alphabet_of_isAsciiDigit
    (hDigit : Text.isAsciiDigit c = true) :
    c ∈ code39Alphabet := by
  have hDigits :
      ∀ k : Fin 10, CodePoint.ofNat (48 + k) ∈ code39Alphabet := by
    decide
  rcases Text.exists_digit hDigit with ⟨k, hk⟩
  rw [hk]
  exact hDigits k

theorem mem_code39Alphabet_of_mem_code39Marks
    (hMark : c ∈ code39Marks) :
    c ∈ code39Alphabet := by
  have hMarks : ∀ d ∈ code39Marks, d ∈ code39Alphabet := by
    decide
  exact hMarks c hMark

/- What may stand in Code 39 has a symbol or is blank. -/
theorem isCode39_iff :
    isCode39 c = true ↔
      c ∈ code39Alphabet ∨ Text.isBlank c = true := by
  constructor
  · intro hTaken
    simp only [isCode39, Bool.or_eq_true, List.contains_iff_mem]
      at hTaken
    rcases hTaken with ((hUpper | hDigit) | hMark) | hBlank
    · exact .inl (mem_code39Alphabet_of_isUpper hUpper)
    · exact .inl (mem_code39Alphabet_of_isAsciiDigit hDigit)
    · exact .inl (mem_code39Alphabet_of_mem_code39Marks hMark)
    · exact .inr hBlank
  · rintro (hSymbol | hBlank)
    · exact isCode39_of_mem_code39Alphabet hSymbol
    · rw [isCode39, hBlank, Bool.or_true]

end Characters

------------------------------------------------------------
-- Payloads
------------------------------------------------------------

namespace Payload

variable {key : Value}
variable {data : Text}

/-
  Whether a text is symbols of Code 39 and blanks, and not all of
  the blanks are spaces.
-/
structure HasForeignBlanks
    (t : Text) :
    Prop where
  characters :
    ∀ c ∈ t, c ∈ code39Alphabet ∨ Text.isBlank c = true
  foreign : ∃ c ∈ t, c ∉ code39Alphabet

/- Every text is accepted or not, by its characters alone. -/
theorem isAccepted_code39
    (hKey : Symbology.ofValue? key = some .code39) :
    isAccepted key (.text data) =
      .ok (data != [] && data.all isCode39) := by
  rw [isAccepted, hKey]
  rfl

/- What is accepted can be written, or has foreign blanks. -/
theorem isAccepted_code39_cases
    (hKey : Symbology.ofValue? key = some .code39) :
    isAccepted key (.text data) = .ok true ↔
      IsCode39Text data ∨ HasForeignBlanks data := by
  simp only [isAccepted_code39 hKey, Except.ok.injEq,
    Bool.and_eq_true, bne_iff_ne, List.all_eq_true, isCode39_iff]
  constructor
  · rintro ⟨hNonempty, hCharacters⟩
    by_cases hForeign : ∃ c ∈ data, c ∉ code39Alphabet
    · exact .inr ⟨hCharacters, hForeign⟩
    · simp only [not_exists, not_and, not_not] at hForeign
      exact .inl ⟨hNonempty, hForeign⟩
  · rintro (hText | hForeign)
    · exact ⟨hText.nonempty,
        fun c hMember => .inl (hText.symbols c hMember)⟩
    · rcases hForeign.foreign with ⟨c, hMember, _⟩
      exact ⟨List.ne_nil_of_mem hMember, hForeign.characters⟩

/-
  Every text is answered for, and what Code 39 can write is
  accepted.  The converse fails for texts with foreign blanks, and
  for nothing else.
-/
theorem isAccepted_code39_iff
    (hKey : Symbology.ofValue? key = some .code39) :
    (∃ accepted, isAccepted key (.text data) = .ok accepted) ∧
      (IsCode39Text data →
        isAccepted key (.text data) = .ok true) ∧
      ((isAccepted key (.text data) = .ok true ↔
          IsCode39Text data) ↔
        ¬ HasForeignBlanks data) := by
  have hCases :
      isAccepted key (.text data) = .ok true ↔
        IsCode39Text data ∨ HasForeignBlanks data :=
    isAccepted_code39_cases hKey
  have hApart :
      HasForeignBlanks data → ¬ IsCode39Text data := by
    intro hForeign hText
    rcases hForeign.foreign with ⟨c, hMember, hOther⟩
    exact hOther (hText.symbols c hMember)
  refine ⟨⟨_, isAccepted_code39 hKey⟩,
    fun hText => hCases.mpr (.inl hText), ?_⟩
  rw [hCases]
  constructor
  · intro hSame hForeign
    exact hApart hForeign (hSame.mp (.inr hForeign))
  · intro hOwn
    exact or_iff_left hOwn

/- Letters, digits, all marks and a space are accepted. -/
theorem isAccepted_code39_iff_marks :
    Symbology.ofValue? (.text " code39") = some .code39 ∧
      IsCode39Text "ABC-123 $/+%." ∧
      isAccepted (.text " code39") (.text "ABC-123 $/+%.") =
        .ok true := by
  have hKey :
      Symbology.ofValue? (.text " code39") = some .code39 := rfl
  have hText : IsCode39Text "ABC-123 $/+%." :=
    { nonempty := by decide
      symbols := by decide }
  exact ⟨hKey, hText, (isAccepted_code39_iff hKey).2.1 hText⟩

/- A tab between two letters is accepted, and has no symbol. -/
theorem isAccepted_code39_tab :
    Symbology.ofValue? (.text "CODE39") = some .code39 ∧
      isAccepted (.text "CODE39") (.text "A\tB") = .ok true ∧
      ¬ IsCode39Text "A\tB" := by
  refine ⟨rfl, rfl, fun hText => ?_⟩
  have hTab : CodePoint.char '\t' ∈ code39Alphabet :=
    hText.symbols _ (by decide)
  revert hTab
  decide

end Payload

end LabelPress
