import LabelPress.Barcode.Payload
import LabelPress.Proofs.Text.ReadIntegers
import Mathlib.Algebra.GroupWithZero.Nat

/-
  Check digits.

  A check digit stands behind the digits of a payload and makes
  their weighted sum a multiple of ten.  The weights are counted
  from the right, so zeros in front make no difference.  Both of
  them are invertible modulo ten, so that one wrong digit shows,
  and they differ by two, so that two neighbours that are swapped
  show unless their difference is a multiple of five.

  Main declarations:
    * `Symbology.EndsInCheckDigit`, `Payload.IsCompletable`
    * `Payload.placeWeight`, `Payload.digitSum`
    * `Payload.weightedSum_append`
    * `Payload.checkDigit?_completes`
    * `Payload.checkDigit?_detects`
-/

namespace LabelPress

------------------------------------------------------------
-- Symbologies with a Check Digit
------------------------------------------------------------

/-
  The symbologies that end in a check digit, with the number of
  digits in front of it.
-/
inductive Symbology.EndsInCheckDigit :
    Symbology → Nat → Prop where
  | ean13 : EndsInCheckDigit .ean13 12
  | upcA : EndsInCheckDigit .upcA 11
  | ean8 : EndsInCheckDigit .ean8 7

theorem Symbology.dataLength?_eq_some_iff
    {symbology : Symbology}
    {length : Nat} :
    symbology.dataLength? = some length ↔
      symbology.EndsInCheckDigit length := by
  constructor
  · intro hLength
    unfold dataLength? at hLength
    split at hLength
    · obtain rfl := Option.some.inj hLength
      exact .ean13
    · obtain rfl := Option.some.inj hLength
      exact .upcA
    · obtain rfl := Option.some.inj hLength
      exact .ean8
    · cases hLength
  · intro hEnds
    cases hEnds with
    | ean13 => rfl
    | upcA => rfl
    | ean8 => rfl

namespace Payload

/-
  Whether a text is digits that the symbology of a key completes,
  at most as many as it has room for.
-/
structure IsCompletable
    (key : Value)
    (room : Nat)
    (p : Text) :
    Prop where
  known :
    ∃ symbology, Symbology.ofValue? key = some symbology ∧
      symbology.EndsInCheckDigit room
  nonempty : p ≠ []
  fits : p.length ≤ room
  digits : ∀ c ∈ p, Text.isAsciiDigit c = true

------------------------------------------------------------
-- Weighted Sums
------------------------------------------------------------

/- The weight of a place, counted from the right. -/
def placeWeight
    (place : Nat) :
    Nat :=
  if place % 2 = 0 then 1 else 3

/- The sum of digits, each by the weight of its place. -/
def digitSum
    (ds : List Nat) :
    Nat :=
  (ds.reverse.mapIdx fun place d => placeWeight place * d).sum

/- The digits of a text. -/
def digitsOf
    (p : Text) :
    List Nat :=
  p.map Text.asciiDigitValue

theorem placeWeight_cases
    (place : Nat) :
    placeWeight place = 1 ∧ placeWeight (place + 1) = 3 ∨
      placeWeight place = 3 ∧ placeWeight (place + 1) = 1 := by
  unfold placeWeight
  split_ifs with hHere hNext
  · omega
  · exact .inl ⟨rfl, rfl⟩
  · exact .inr ⟨rfl, rfl⟩
  · omega

theorem weightedSum_cons
    (place d : Nat)
    (ds : List Nat) :
    weightedSum (placeWeight place) (d :: ds) =
      placeWeight place * d +
        weightedSum (placeWeight (place + 1)) ds := by
  have hNext : 4 - placeWeight place = placeWeight (place + 1) := by
    have hWeights := placeWeight_cases place
    omega
  rw [weightedSum, hNext]

/- Alternating weights are those of the places. -/
theorem weightedSum_eq_sum
    (place : Nat)
    (ds : List Nat) :
    weightedSum (placeWeight place) ds =
      (ds.mapIdx fun i d => placeWeight (place + i) * d).sum := by
  induction ds generalizing place with
  | nil => rfl
  | cons d ds ih =>
      rw [weightedSum_cons, ih, List.mapIdx_cons, List.sum_cons]
      simp only [Nat.add_zero, Nat.add_assoc, Nat.add_comm 1]

/- The weights go on behind the first digits. -/
theorem weightedSum_append
    (place : Nat)
    (ds es : List Nat) :
    weightedSum (placeWeight place) (ds ++ es) =
      weightedSum (placeWeight place) ds +
        weightedSum (placeWeight (place + ds.length)) es := by
  induction ds generalizing place with
  | nil =>
      rw [List.nil_append, weightedSum, List.length_nil,
        Nat.add_zero, Nat.zero_add]
  | cons d ds ih =>
      have hPlace :
          place + 1 + ds.length = place + (d :: ds).length := by
        rw [List.length_cons]
        omega
      rw [List.cons_append, weightedSum_cons, weightedSum_cons, ih,
        hPlace, Nat.add_assoc]

theorem weightedSum_zeros
    (place k : Nat) :
    weightedSum (placeWeight place) (List.replicate k 0) = 0 := by
  induction k generalizing place with
  | zero => rfl
  | succ k ih =>
      rw [List.replicate_succ, weightedSum_cons, ih, Nat.mul_zero]

/- A digit behind others moves them all by one place. -/
theorem digitSum_concat
    (ds : List Nat)
    (c : Nat) :
    digitSum (ds ++ [c]) =
      c + weightedSum (placeWeight 1) ds.reverse := by
  have hPlaces := weightedSum_eq_sum 0 (c :: ds.reverse)
  have hFirst : placeWeight 0 = 1 := rfl
  simp only [Nat.zero_add] at hPlaces
  rw [digitSum, List.reverse_concat, ← hPlaces, weightedSum_cons,
    hFirst, Nat.one_mul]

/- What a weighted sum lacks to a multiple of ten. -/
theorem completing_eq
    (ds : List Nat) :
    Symbology.completing ds =
      (10 - weightedSum (placeWeight 1) ds.reverse % 10) % 10 :=
  rfl

theorem completing_iff
    {ds : List Nat}
    {c : Nat} :
    c < 10 ∧ 10 ∣ digitSum (ds ++ [c]) ↔
      c = Symbology.completing ds := by
  rw [digitSum_concat, completing_eq]
  omega

theorem completing_eq_iff
    {ds es : List Nat} :
    Symbology.completing ds = Symbology.completing es ↔
      weightedSum (placeWeight 1) ds.reverse % 10 =
        weightedSum (placeWeight 1) es.reverse % 10 := by
  rw [completing_eq, completing_eq]
  omega

------------------------------------------------------------
-- Completed Payloads
------------------------------------------------------------

variable {key : Value}
variable {room : Nat}
variable {p q : Text}

theorem IsCompletable.checkDigit?_eq
    (hDigits : IsCompletable key room p) :
    checkDigit? key (.text p) =
      some (Symbology.completing (digitsOf p)) := by
  rcases hDigits.known with ⟨symbology, hKey, hEnds⟩
  have hAll : p.all Text.isAsciiDigit = true :=
    List.all_eq_true.mpr hDigits.digits
  have hAccepted :
      ¬ (p = [] ∨ room < p.length ∨
        ¬ p.all Text.isAsciiDigit = true) := by
    rw [not_or, not_or, not_not]
    exact ⟨hDigits.nonempty, Nat.not_lt_of_le hDigits.fits, hAll⟩
  rw [checkDigit?, hKey]
  change symbology.checkDigit? (.text p) = _
  unfold Symbology.checkDigit?
  rw [Symbology.dataLength?_eq_some_iff.mpr hEnds]
  exact if_neg hAccepted

/- Just payloads that can be completed have a check digit. -/
theorem isCompletable_of_checkDigit?
    {data : Value}
    {c : Nat}
    (hDigit : checkDigit? key data = some c) :
    ∃ room p, data = .text p ∧ IsCompletable key room p := by
  rw [checkDigit?] at hDigit
  rcases Option.bind_eq_some_iff.mp hDigit with
    ⟨symbology, hKey, hCompleted⟩
  unfold Symbology.checkDigit? at hCompleted
  split at hCompleted
  next room p hRoom =>
    split_ifs at hCompleted with hRefused
    rw [not_or, not_or, not_not] at hRefused
    exact ⟨room, p, rfl,
      ⟨symbology, hKey,
        Symbology.dataLength?_eq_some_iff.mp hRoom⟩,
      hRefused.1, Nat.le_of_not_lt hRefused.2.1,
      List.all_eq_true.mp hRefused.2.2⟩
  next => cases hCompleted

/- Other digits in the same number are completed as well. -/
theorem IsCompletable.of_length_eq
    (hDigits : IsCompletable key room p)
    (hLength : q.length = p.length)
    (hOther : ∀ c ∈ q, Text.isAsciiDigit c = true) :
    IsCompletable key room q where
  known := hDigits.known
  nonempty := by
    have hSome := List.length_pos_iff.mpr hDigits.nonempty
    rw [← hLength] at hSome
    exact List.length_pos_iff.mp hSome
  fits := hLength ▸ hDigits.fits
  digits := hOther

theorem IsCompletable.zeros
    (hDigits : IsCompletable key room p)
    {zeros : Nat}
    (hRoom : zeros + p.length ≤ room) :
    IsCompletable key room (Text.run '0' zeros ++ p) where
  known := hDigits.known
  nonempty := by simp [hDigits.nonempty]
  fits := by
    rw [List.length_append, Text.run, List.length_replicate]
    exact hRoom
  digits := by
    intro c hMember
    rcases List.mem_append.mp hMember with hZero | hOwn
    · rw [List.eq_of_mem_replicate hZero]
      decide
    · exact hDigits.digits c hOwn

theorem completing_zeros
    (zeros : Nat)
    (p : Text) :
    Symbology.completing (digitsOf (Text.run '0' zeros ++ p)) =
      Symbology.completing (digitsOf p) := by
  have hZero : Text.asciiDigitValue '0' = 0 := rfl
  have hDigits :
      digitsOf (Text.run '0' zeros ++ p) =
        List.replicate zeros 0 ++ digitsOf p := by
    rw [digitsOf, List.map_append, Text.run, List.map_replicate,
      hZero]
    rfl
  rw [completing_eq_iff, hDigits, List.reverse_append,
    List.reverse_replicate, weightedSum_append, weightedSum_zeros,
    Nat.add_zero]

/-
  The check digit of digits that a symbology has room for is the
  only digit that makes the weighted sum a multiple of ten.  Zeros
  in front do not change it, and nothing else has one.
-/
theorem checkDigit?_completes
    (key : Value) :
    (∀ room p, IsCompletable key room p →
      ∃ c, checkDigit? key (.text p) = some c ∧
        ∀ d, d < 10 ∧ 10 ∣ digitSum (digitsOf p ++ [d]) ↔ d = c) ∧
    (∀ room p zeros, IsCompletable key room p →
      zeros + p.length ≤ room →
        checkDigit? key (.text (Text.run '0' zeros ++ p)) =
          checkDigit? key (.text p)) ∧
    ∀ data,
      (∀ room p, data = .text p → ¬ IsCompletable key room p) →
        checkDigit? key data = none := by
  refine ⟨fun room p hDigits => ?_,
    fun room p zeros hDigits hRoom => ?_, fun data hOther => ?_⟩
  · exact ⟨_, hDigits.checkDigit?_eq, fun d => completing_iff⟩
  · rw [(hDigits.zeros hRoom).checkDigit?_eq, completing_zeros,
      hDigits.checkDigit?_eq]
  · cases hDigit : checkDigit? key data with
    | none => rfl
    | some c =>
        rcases isCompletable_of_checkDigit? hDigit with
          ⟨room, p, hText, hDigits⟩
        exact absurd hDigits (hOther room p hText)

/- The digits in front of the check digit of an article. -/
theorem checkDigit?_completes_article :
    IsCompletable (.text " ean13 ") 12 "400638133393" ∧
      checkDigit? (.text " ean13 ") (.text "400638133393") =
        some 1 ∧
      10 ∣ digitSum (digitsOf "400638133393" ++ [1]) := by
  have hDigits :
      IsCompletable (.text " ean13 ") 12 "400638133393" :=
    { known := ⟨.ean13, rfl, .ean13⟩
      nonempty := by decide
      fits := by decide
      digits := by decide }
  have hOne :
      checkDigit? (.text " ean13 ") (.text "400638133393") =
        some 1 := rfl
  rcases (checkDigit?_completes (.text " ean13 ")).1 12 _ hDigits
    with ⟨c, hDigit, hUnique⟩
  obtain rfl := Option.some.inj (hDigit.symm.trans hOne)
  exact ⟨hDigits, hOne, ((hUnique 1).mpr rfl).2⟩

------------------------------------------------------------
-- Wrong Digits
------------------------------------------------------------

section WrongDigits

variable {u v : Text}
variable {a b : CodePoint}

theorem reverse_digitsOf_append
    (u v : Text) :
    (digitsOf (u ++ v)).reverse =
      (digitsOf v).reverse ++ (digitsOf u).reverse := by
  rw [digitsOf, List.map_append, List.reverse_append]
  rfl

/- A digit counts by the weight of its place. -/
theorem weightedSum_digit
    (u v : Text)
    (a : CodePoint) :
    weightedSum (placeWeight 1) (digitsOf (u ++ a :: v)).reverse =
      weightedSum (placeWeight 1) (digitsOf v).reverse +
        (placeWeight (1 + v.length) * Text.asciiDigitValue a +
          weightedSum (placeWeight (1 + v.length + 1))
            (digitsOf u).reverse) := by
  have hLast :
      (digitsOf (a :: v)).reverse ++ (digitsOf u).reverse =
        (digitsOf v).reverse ++
          (Text.asciiDigitValue a :: (digitsOf u).reverse) := by
    simp [digitsOf]
  have hLength : (digitsOf v).reverse.length = v.length := by
    simp [digitsOf]
  rw [reverse_digitsOf_append, hLast, weightedSum_append, hLength,
    weightedSum_cons]

/- Neighbours count by neighbouring weights. -/
theorem weightedSum_neighbours
    (u v : Text)
    (a b : CodePoint) :
    weightedSum (placeWeight 1)
        (digitsOf (u ++ a :: b :: v)).reverse =
      weightedSum (placeWeight 1) (digitsOf v).reverse +
        (placeWeight (1 + v.length) * Text.asciiDigitValue b +
          (placeWeight (1 + v.length + 1) *
              Text.asciiDigitValue a +
            weightedSum (placeWeight (1 + v.length + 1 + 1))
              (digitsOf u).reverse)) := by
  have hFront : u ++ a :: b :: v = u ++ [a] ++ b :: v := by simp
  have hLast :
      (digitsOf (u ++ [a])).reverse =
        Text.asciiDigitValue a :: (digitsOf u).reverse := by
    simp [digitsOf]
  rw [hFront, weightedSum_digit, hLast, weightedSum_cons]

/- Both weights are invertible modulo ten. -/
theorem completing_digit_iff
    (ha : Text.isAsciiDigit a = true)
    (hb : Text.isAsciiDigit b = true) :
    Symbology.completing (digitsOf (u ++ a :: v)) =
        Symbology.completing (digitsOf (u ++ b :: v)) ↔
      a = b := by
  constructor
  · intro hSame
    apply Text.eq_of_asciiDigitValue_eq ha hb
    have hA := Text.asciiDigitValue_lt ha
    have hB := Text.asciiDigitValue_lt hb
    rw [completing_eq_iff, weightedSum_digit,
      weightedSum_digit] at hSame
    rcases placeWeight_cases (1 + v.length) with
      ⟨hHere, _⟩ | ⟨hHere, _⟩
    · rw [hHere] at hSame
      omega
    · rw [hHere] at hSame
      omega
  · rintro rfl
    rfl

/- Swapped neighbours count twice their difference. -/
theorem completing_neighbours_iff
    (ha : Text.isAsciiDigit a = true)
    (hb : Text.isAsciiDigit b = true) :
    Symbology.completing (digitsOf (u ++ a :: b :: v)) =
        Symbology.completing (digitsOf (u ++ b :: a :: v)) ↔
      a = b ∨
        ((Text.asciiDigitValue a : Int) -
          Text.asciiDigitValue b).natAbs = 5 := by
  have hA := Text.asciiDigitValue_lt ha
  have hB := Text.asciiDigitValue_lt hb
  have hSame :
      a = b ↔ Text.asciiDigitValue a = Text.asciiDigitValue b :=
    ⟨congrArg _, Text.eq_of_asciiDigitValue_eq ha hb⟩
  rw [completing_eq_iff, weightedSum_neighbours,
    weightedSum_neighbours, hSame]
  -- the sums differ by twice the difference, whichever weighs more
  rcases placeWeight_cases (1 + v.length) with
    ⟨hHere, hNext⟩ | ⟨hHere, hNext⟩
  · rw [hHere, hNext]
    omega
  · rw [hHere, hNext]
    omega

/- One digit can be put for another one. -/
theorem IsCompletable.replace
    (hDigits : IsCompletable key room (u ++ a :: v))
    (hb : Text.isAsciiDigit b = true) :
    IsCompletable key room (u ++ b :: v) := by
  refine hDigits.of_length_eq (by simp) fun c hMember => ?_
  have hOwn := hDigits.digits c
  simp only [List.mem_append, List.mem_cons] at hMember hOwn
  rcases hMember with hFront | rfl | hBehind
  · exact hOwn (.inl hFront)
  · exact hb
  · exact hOwn (.inr (.inr hBehind))

/- Two neighbours can be swapped. -/
theorem IsCompletable.swap
    (hDigits : IsCompletable key room (u ++ a :: b :: v)) :
    IsCompletable key room (u ++ b :: a :: v) := by
  refine hDigits.of_length_eq (by simp) fun c hMember => ?_
  apply hDigits.digits c
  simp only [List.mem_append, List.mem_cons] at hMember ⊢
  rcases hMember with hFront | hSecond | hFirst | hBehind
  · exact .inl hFront
  · exact .inr (.inr (.inl hSecond))
  · exact .inr (.inl hFirst)
  · exact .inr (.inr (.inr hBehind))

/-
  Another digit in one place changes the check digit.  Swapping
  two neighbours leaves it what it is exactly if they are equal or
  five apart.
-/
theorem checkDigit?_detects
    (key : Value)
    (room : Nat)
    (u v : Text)
    (a b : CodePoint) :
    (IsCompletable key room (u ++ a :: v) →
      Text.isAsciiDigit b = true → a ≠ b →
        ∃ c d, checkDigit? key (.text (u ++ a :: v)) = some c ∧
          checkDigit? key (.text (u ++ b :: v)) = some d ∧
          c ≠ d) ∧
    (IsCompletable key room (u ++ a :: b :: v) →
      ∃ c d, checkDigit? key (.text (u ++ a :: b :: v)) = some c ∧
        checkDigit? key (.text (u ++ b :: a :: v)) = some d ∧
        (c = d ↔
          a = b ∨
            ((Text.asciiDigitValue a : Int) -
              Text.asciiDigitValue b).natAbs = 5)) := by
  constructor
  · intro hDigits hb hOther
    have ha : Text.isAsciiDigit a = true :=
      hDigits.digits a (by simp)
    refine ⟨_, _, hDigits.checkDigit?_eq,
      (hDigits.replace hb).checkDigit?_eq, fun hSame => ?_⟩
    exact hOther ((completing_digit_iff ha hb).mp hSame)
  · intro hDigits
    have ha : Text.isAsciiDigit a = true :=
      hDigits.digits a (by simp)
    have hb : Text.isAsciiDigit b = true :=
      hDigits.digits b (by simp)
    exact ⟨_, _, hDigits.checkDigit?_eq,
      hDigits.swap.checkDigit?_eq, completing_neighbours_iff ha hb⟩

/- A wrong digit shows, and neighbours five apart do not. -/
theorem checkDigit?_detects_wrong :
    IsCompletable (.text "EAN8") 7 "9638507" ∧
      checkDigit? (.text "EAN8") (.text "9648507") ≠
        checkDigit? (.text "EAN8") (.text "9638507") ∧
      checkDigit? (.text "EAN8") (.text "9683507") =
        checkDigit? (.text "EAN8") (.text "9638507") := by
  have hDigits : IsCompletable (.text "EAN8") 7 "9638507" :=
    { known := ⟨.ean8, rfl, .ean8⟩
      nonempty := by decide
      fits := by decide
      digits := by decide }
  have hDetects :=
    checkDigit?_detects (.text "EAN8") 7 "96" "8507" '3' '4'
  have hSwapped :=
    checkDigit?_detects (.text "EAN8") 7 "96" "507" '3' '8'
  rcases hDetects.1 hDigits rfl (by decide) with
    ⟨c, d, hRight, hWrong, hOther⟩
  rcases hSwapped.2 hDigits with ⟨k, l, hBefore, hAfter, hSame⟩
  refine ⟨hDigits, fun hUnseen => ?_, ?_⟩
  · exact hOther (Option.some.inj
      (hRight.symm.trans (hUnseen.symm.trans hWrong)))
  · obtain rfl := hSame.mpr (.inr rfl)
    exact hAfter.trans hBefore.symm

end WrongDigits

end Payload

end LabelPress
