import LabelPress.Machine.Usual
import LabelPress.Proofs.Double.FixedPlaces
import LabelPress.Proofs.Variable.IntegerFormats

/-
  Amounts of money.

  An amount is a number of two decimal places with a mark behind
  the sign, and a comma in front of each further group of three
  digits.  The groups are counted from the point, so only the
  first one can have less than three digits.

  Main declarations:
    * `Text.without`, `Text.IsGrouped`
    * `Text.isGrouped_groupThousands`, `Text.IsGrouped.without_eq`
    * `NumberFormat.format_currency_groups`
-/

namespace LabelPress

namespace Text

------------------------------------------------------------
-- Groups of Digits
------------------------------------------------------------

/- A text without some marks. -/
def without
    (marks : Text)
    (t : Text) :
    Text :=
  t.filter fun c => c ∉ marks

/-
  Whether a text is digits with a comma in front of each group of
  three behind the first one, which has at most three.
-/
def IsGrouped
    (ds : Text)
    (t : Text) :
    Prop :=
  ∃ lead groups,
    ds = lead ++ groups.flatten ∧
      t = intercalate "," (lead :: groups) ∧
      (0 < lead.length ∧ lead.length ≤ 3) ∧
      ∀ group ∈ groups, group.length = 3

theorem without_append
    (marks s t : Text) :
    without marks (s ++ t) = without marks s ++ without marks t :=
  List.filter_append s t

theorem without_of_notMem
    {marks t : Text}
    (hNone : ∀ c ∈ t, c ∉ marks) :
    without marks t = t :=
  List.filter_eq_self.mpr fun c hMember =>
    decide_eq_true (hNone c hMember)

theorem intercalate_cons_cons
    (separator first second : Text)
    (rest : List Text) :
    intercalate separator (first :: second :: rest) =
      first ++ separator ++ intercalate separator (second :: rest) :=
  List.intercalate_cons_cons

/- A character in front of the first part is in front of all. -/
theorem intercalate_cons_left
    (separator lead : Text)
    (c : CodePoint)
    (rest : List Text) :
    intercalate separator ((c :: lead) :: rest) =
      c :: intercalate separator (lead :: rest) := by
  cases rest with
  | nil => simp [intercalate]
  | cons second rest =>
      rw [intercalate_cons_cons, intercalate_cons_cons]
      rfl

theorem length_flatten_groups
    {groups : List Text}
    (hThree : ∀ group ∈ groups, group.length = 3) :
    groups.flatten.length = 3 * groups.length := by
  induction groups with
  | nil => rfl
  | cons group rest ih =>
      rcases List.forall_mem_cons.mp hThree with ⟨hFirst, hRest⟩
      rw [List.flatten_cons, List.length_append, hFirst, ih hRest,
        List.length_cons]
      omega

/-
  Thousands are grouped from the last digit on.  By induction on
  the digits: one in front of full groups starts a group of its
  own, and any other one joins the first group.
-/
theorem isGrouped_groupThousands
    {ds : Text}
    (hSome : ds ≠ []) :
    IsGrouped ds (groupThousands ds) := by
  have hOne : ∀ c : CodePoint, 0 < [c].length ∧ [c].length ≤ 3 :=
    fun _ => ⟨Nat.one_pos, Nat.le_add_left 1 2⟩
  induction ds with
  | nil => exact absurd rfl hSome
  | cons c cs ih =>
      cases cs with
      | nil =>
          exact ⟨[c], [], rfl, rfl, hOne c, nofun⟩
      | cons d cs =>
          rcases ih nofun with
            ⟨lead, groups, hDigits, hText, hLead, hThree⟩
          have hLength := length_flatten_groups hThree
          have hCount :
              (d :: cs).length = lead.length + 3 * groups.length := by
            rw [hDigits, List.length_append, hLength]
          rw [groupThousands]
          split_ifs with hFull
          · have hGroup : lead.length = 3 := by omega
            refine ⟨[c], lead :: groups, ?_, ?_, hOne c, ?_⟩
            · rw [hDigits]
              rfl
            · rw [hText, intercalate_cons_cons]
              rfl
            · exact List.forall_mem_cons.mpr ⟨hGroup, hThree⟩
          · have hShort : lead.length < 3 := by
              by_contra hLong
              exact hFull ⟨by omega, nofun⟩
            refine ⟨c :: lead, groups, ?_, ?_, ?_, hThree⟩
            · rw [hDigits]
              rfl
            · rw [hText, intercalate_cons_left]
            · rw [List.length_cons]
              omega

/- Between parts without commas there are just the commas. -/
theorem without_intercalate
    {marks lead : Text}
    {groups : List Text}
    (hComma : CodePoint.char ',' ∈ marks)
    (hNone : ∀ c ∈ lead ++ groups.flatten, c ∉ marks) :
    without marks (intercalate "," (lead :: groups)) =
      lead ++ groups.flatten := by
  induction groups generalizing lead with
  | nil => simpa [intercalate] using without_of_notMem hNone
  | cons group rest ih =>
      have hLead : ∀ c ∈ lead, c ∉ marks := fun c hMember =>
        hNone c (List.mem_append_left _ hMember)
      have hRest : ∀ c ∈ group ++ rest.flatten, c ∉ marks :=
        fun c hMember => hNone c (List.mem_append_right _ hMember)
      have hSeparator : without marks (ofString ",") = [] :=
        List.filter_eq_nil_iff.mpr (by simpa [ofString])
      rw [intercalate_cons_cons, without_append, without_append,
        without_of_notMem hLead, hSeparator, ih hRest,
        List.append_nil, List.flatten_cons]

/- Commas aside, digits in groups are the digits. -/
theorem IsGrouped.without_eq
    {ds t marks : Text}
    (hGrouped : IsGrouped ds t)
    (hComma : CodePoint.char ',' ∈ marks)
    (hNone : ∀ c ∈ ds, c ∉ marks) :
    without marks t = ds := by
  rcases hGrouped with ⟨lead, groups, rfl, rfl, _, _⟩
  exact without_intercalate hComma hNone

end Text

namespace NumberFormat

------------------------------------------------------------
-- Amounts
------------------------------------------------------------

variable {v : Value}
variable {x : Double}

theorem format_currency
    [Machine]
    (hNumber : v.toDouble = .ok x) :
    (format v (some "currency")).result = .ok (currency x) := by
  have hPerformed :
      perform? "currency" v =
        attempt "currency" v (v.toDouble.map currency) := rfl
  have hSplit :
      Directive.split "currency" = [Text.ofString "currency"] :=
    rfl
  rw [BoundValue.result_format, Directive.inFormat,
    Option.elim_some, hSplit, applyFirst, hPerformed, hNumber]
  rfl

theorem notMem_amountMarks
    {c : CodePoint}
    (hDigit : Text.isAsciiDigit c = true) :
    c ∉ Text.ofString "$," := by
  intro hMember
  have hMark : c = .char '$' ∨ c = .char ',' := by
    simpa [Text.ofString] using hMember
  rcases hMark with rfl | rfl
  · exact absurd hDigit (by decide)
  · exact absurd hDigit (by decide)

/- Without its marks an amount is a number with a point. -/
theorem without_amount
    {ds whole fraction : Text}
    (negative : Bool)
    (hGrouped : Text.IsGrouped ds whole)
    (hWhole : ∀ c ∈ ds, Text.isAsciiDigit c = true)
    (hFraction : ∀ c ∈ fraction, Text.isAsciiDigit c = true) :
    Text.without "$,"
        (signText negative ++ "$" ++ whole ++ "." ++ fraction) =
      signText negative ++ ds ++ "." ++ fraction := by
  have hSign :
      Text.without "$," (signText negative) = signText negative := by
    cases negative with
    | false => rfl
    | true => rfl
  have hMark : Text.without "$," "$" = [] := rfl
  have hPoint : Text.without "$," "." = "." := rfl
  have hDigits : Text.without "$," whole = ds :=
    hGrouped.without_eq (by decide) fun c hMember =>
      notMem_amountMarks (hWhole c hMember)
  have hRest : Text.without "$," fraction = fraction :=
    Text.without_of_notMem fun c hMember =>
      notMem_amountMarks (hFraction c hMember)
  simp only [Text.without_append, hSign, hMark, hDigits, hPoint,
    hRest, List.append_nil]

/- An amount and a number with two places have the same parts. -/
theorem exists_amount_parts
    (hFinite : x.isFinite = true)
    (hSigned : x ≠ Double.zero true) :
    ∃ n, Double.IsNearestParts 2 x n ∧
      currency x =
        signText (Double.lt x 0) ++ "$" ++
          groupThousands (Text.digits 10 (n / 100)) ++ "." ++
          paddedDigits 2 (n % 100) ∧
      x.fixed 2 =
        signText (Double.lt x 0) ++ Text.digits 10 (n / 100) ++
          "." ++ paddedDigits 2 (n % 100) := by
  rcases Double.exists_fixedWith_abs hFinite 2 (by decide)
    (by decide) with ⟨n, hNearest, hPrinted⟩
  have hMinus :
      ∀ b : Bool,
        Text.ofString (if b = true then "-" else "") = signText b := by
    decide
  refine ⟨n, hNearest, ?_, ?_⟩
  · rw [currency, Double.fixedGrouped, hPrinted, hMinus]
    simp only [List.append_assoc, Nat.reducePow]
  · rw [Double.fixed, Double.fixedWith_eq_abs hFinite, hPrinted,
      ← Double.lt_zero_eq_isNegative hFinite hSigned]
    simp only [id_eq, List.append_assoc, Nat.reducePow]

/-
  The amount of a finite number is its sign, the mark, the whole
  ones of its nearest hundredths in groups, and the hundredths
  that are left.  Without the mark and the commas it is the number
  with two decimal places.
-/
theorem format_currency_groups
    [Machine]
    (hNumber : v.toDouble = .ok x)
    (hFinite : x.isFinite = true)
    (hSigned : x ≠ Double.zero true) :
    ∃ s n whole,
      (format v (some "currency")).result = .ok s ∧
        (format v (some "decimal:2")).result =
          .ok (Text.without "$," s) ∧
        s = signText (Double.lt x 0) ++ "$" ++ whole ++ "." ++
          paddedDigits 2 (n % 100) ∧
        Text.IsGrouped (Text.digits 10 (n / 100)) whole ∧
        Double.IsNearestParts 2 x n := by
  rcases exists_amount_parts hFinite hSigned with
    ⟨n, hNearest, hAmount, hPlain⟩
  have hGrouped :=
    Text.isGrouped_groupThousands (Text.digits_ne_nil (n / 100))
  have hFraction :
      ∀ c ∈ paddedDigits 2 (n % 100), Text.isAsciiDigit c = true :=
    fun _ => Text.isAsciiDigit_of_mem_paddedDigits
  have hMarks := without_amount (Double.lt x 0) hGrouped
    (fun _ => Text.isAsciiDigit_of_mem_digits) hFraction
  have hDecimal :
      (format v (some "decimal:2")).result = .ok (x.fixed 2) :=
    format_decimal (n := 2) hNumber (by decide)
      Machine.two_le_places
  rw [hPlain, ← hMarks, ← hAmount] at hDecimal
  exact ⟨_, n, _, format_currency hNumber, hDecimal, hAmount,
    hGrouped, hNearest⟩

/- A tie goes to the even hundredth, whatever the sign. -/
theorem format_currency_groups_tie :
    (Value.double (Double.ofRatio true 9876537 8)).toDouble =
        .ok (Double.ofRatio true 9876537 8) ∧
      (Double.ofRatio true 9876537 8).isFinite = true ∧
      Double.ofRatio true 9876537 8 ≠ Double.zero true ∧
      (format (.double (Double.ofRatio true 9876537 8))
          (some "currency")).result = .ok "-$1,234,567.12" ∧
      (format (.double (Double.ofRatio true 9876537 8))
          (some "decimal:2")).result = .ok "-1234567.12" := by
  have hFinite : (Double.ofRatio true 9876537 8).isFinite = true := by
    decide +kernel
  have hSigned :
      Double.ofRatio true 9876537 8 ≠ Double.zero true := by
    decide +kernel
  have hText :
      (format (.double (Double.ofRatio true 9876537 8))
          (some "currency")).result = .ok "-$1,234,567.12" := by
    decide +kernel
  have hNumber :
      (Value.double (Double.ofRatio true 9876537 8)).toDouble =
        .ok (Double.ofRatio true 9876537 8) := rfl
  rcases format_currency_groups hNumber hFinite hSigned with
    ⟨s, n, whole, hCurrency, hDecimal, _⟩
  obtain rfl := Except.ok.inj (hCurrency.symm.trans hText)
  exact ⟨hNumber, hFinite, hSigned, hText, hDecimal⟩

end NumberFormat

end LabelPress
