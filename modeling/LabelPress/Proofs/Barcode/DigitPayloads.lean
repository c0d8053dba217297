import LabelPress.Proofs.Barcode.CheckDigits

/-
  Payloads of digits.

  A payload that still lacks its check digit is accepted if all
  its characters are decimal digits, of any script, but only the
  ten digits of ASCII are completed.  So what can be completed is
  accepted, and the other way round except for digits of other
  scripts.

  Main declarations:
    * `Payload.isAccepted_digits`
    * `Payload.exists_checkDigit?_iff`
    * `Payload.HasForeignDigits`
    * `Payload.isAccepted_agrees_iff`
-/

namespace LabelPress

namespace Payload

variable {key : Value}
variable {symbology : Symbology}
variable {data : Text}

/-
  Whether a text is decimal digits, and not all of them are among
  the ten digits of ASCII.
-/
structure HasForeignDigits
    (t : Text) :
    Prop where
  decimal : ∀ c ∈ t, Text.isDecimalDigit c = true
  foreign : ∃ c ∈ t, Text.isAsciiDigit c = false

section Room

variable (hKey : Symbology.ofValue? key = some symbology)
variable (hRoom : symbology.EndsInCheckDigit data.length)

include hKey hRoom

theorem ne_nil_of_endsInCheckDigit :
    data ≠ [] := by
  rintro rfl
  cases hRoom

/- A text that lacks its check digit only has to be digits. -/
theorem isAccepted_digits :
    isAccepted key (.text data) =
      .ok (data.all Text.isDecimalDigit) := by
  have hSome : (data != Text.ofString "") = true :=
    bne_iff_ne.mpr (ne_nil_of_endsInCheckDigit hKey hRoom)
  rw [isAccepted, hKey]
  generalize hLength : data.length = length at hRoom
  cases hRoom with
  | ean13 =>
      simp [Symbology.accepts, Symbology.takes, digitsWithin,
        hSome, hLength]
  | upcA =>
      simp [Symbology.accepts, Symbology.takes, digitsWithin,
        hSome, hLength]
  | ean8 =>
      simp [Symbology.accepts, Symbology.takes, digitsWithin,
        hSome, hLength]

theorem isAccepted_digits_iff :
    isAccepted key (.text data) = .ok true ↔
      ∀ c ∈ data, Text.isDecimalDigit c = true := by
  rw [isAccepted_digits hKey hRoom, Except.ok.injEq,
    List.all_eq_true]

/- Only the digits of ASCII are completed. -/
theorem exists_checkDigit?_iff :
    (∃ c, checkDigit? key (.text data) = some c) ↔
      ∀ c ∈ data, Text.isAsciiDigit c = true := by
  constructor
  · rintro ⟨c, hDigit⟩
    rcases isCompletable_of_checkDigit? hDigit with
      ⟨room, p, hText, hDigits⟩
    obtain rfl := Value.text.inj hText
    exact hDigits.digits
  · intro hDigits
    have hCompletable : IsCompletable key data.length data :=
      { known := ⟨symbology, hKey, hRoom⟩
        nonempty := ne_nil_of_endsInCheckDigit hKey hRoom
        fits := Nat.le_refl _
        digits := hDigits }
    exact ⟨_, hCompletable.checkDigit?_eq⟩

/-
  A text that lacks its check digit is accepted if it can be
  completed.  The converse fails for digits of other scripts, and
  for nothing else.
-/
theorem isAccepted_agrees_iff :
    ((∃ c, checkDigit? key (.text data) = some c) →
        isAccepted key (.text data) = .ok true) ∧
      ((isAccepted key (.text data) = .ok true ↔
          ∃ c, checkDigit? key (.text data) = some c) ↔
        ¬ HasForeignDigits data) := by
  have hAccepted := isAccepted_digits_iff hKey hRoom
  have hCompleted := exists_checkDigit?_iff hKey hRoom
  have hDecimal :
      (∀ c ∈ data, Text.isAsciiDigit c = true) →
        ∀ c ∈ data, Text.isDecimalDigit c = true :=
    fun hDigits c hMember =>
      Text.isDecimalDigit_of_isAsciiDigit (hDigits c hMember)
  rw [hAccepted, hCompleted]
  refine ⟨hDecimal, ⟨fun hSame hForeign => ?_,
    fun hNone => ⟨fun hDigits => ?_, hDecimal⟩⟩⟩
  · rcases hForeign.foreign with ⟨c, hMember, hOther⟩
    rw [hSame.mp hForeign.decimal c hMember] at hOther
    cases hOther
  · by_contra hSome
    simp only [not_forall, Bool.not_eq_true] at hSome
    rcases hSome with ⟨c, hMember, hOther⟩
    exact hNone ⟨hDigits, c, hMember, hOther⟩

end Room

/- Digits of ASCII are accepted and completed. -/
theorem isAccepted_agrees_iff_ascii :
    Symbology.ofValue? (.text "upc_a") = some .upcA ∧
      Symbology.upcA.EndsInCheckDigit
        (Text.ofString "03600029145").length ∧
      isAccepted (.text "upc_a") (.text "03600029145") =
        .ok true ∧
      ∃ c, checkDigit? (.text "upc_a") (.text "03600029145") =
        some c := by
  have hKey :
      Symbology.ofValue? (.text "upc_a") = some .upcA := rfl
  have hRoom :
      Symbology.upcA.EndsInCheckDigit
        (Text.ofString "03600029145").length := .upcA
  have hOwn : ¬ HasForeignDigits "03600029145" := by
    rintro ⟨_, hForeign⟩
    revert hForeign
    decide
  have hAccepted :
      isAccepted (.text "upc_a") (.text "03600029145") =
        .ok true := rfl
  have hAgrees := (isAccepted_agrees_iff hKey hRoom).2.mpr hOwn
  exact ⟨hKey, hRoom, hAccepted, hAgrees.mp hAccepted⟩

/- Twelve Arabic zeros are accepted and not completed. -/
theorem isAccepted_foreign_digits :
    Symbology.ofValue? (.text "EAN13") = some .ean13 ∧
      isAccepted (.text "EAN13")
          (.text (Text.run (.char '\u0660') 12)) =
        .ok true ∧
      checkDigit? (.text "EAN13")
          (.text (Text.run (.char '\u0660') 12)) =
        none :=
  ⟨rfl, rfl, rfl⟩

end Payload

end LabelPress
