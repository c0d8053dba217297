import LabelPress.Machine.Usual
import LabelPress.Printer.Options
import LabelPress.Proofs.Double.HalfAway
import LabelPress.Proofs.Outcome
import LabelPress.Proofs.Value.NumberRange
import LabelPress.Proofs.Value.Showing

/-
  Options that are settled.

  Every field of options is settled by one value: the one under
  the name of the field, or else the one under its spelling with
  capitals.  What comes out is a resolution above zero, a unit and
  integers, unless one of the values is of no use and too deep in
  itself to be complained about.  Options that are read from such
  fields, in either spelling, are the same options, and nothing is
  noticed.

  Main declarations:
    * `OptionFields.camelCase`, `OptionFields.given`
    * `OptionFields.settling`, `OptionFields.settled`
    * `OptionFields.IsTooDeep`
    * `PrinterOptions.IsSettled`
    * `PrinterOptions.ofSource_settled`
-/

namespace LabelPress

------------------------------------------------------------
-- Answers
------------------------------------------------------------

namespace Outcome

section Unless

variable {α β : Type}
variable {deep later : Prop}
variable {a : α}
variable {b : β}

/- Whether a step answers, unless something is too deep in itself. -/
def AnswersUnless
    (deep : Prop)
    (a : α)
    (x : Except Fault α) :
    Prop :=
  (deep → x = .error .nestedTooDeep) ∧ (¬ deep → x = .ok a)

theorem answersUnless_of_not
    {x : Except Fault α}
    (hNot : ¬ deep)
    (hAnswer : x = .ok a) :
    AnswersUnless deep a x :=
  ⟨fun hDeep => absurd hDeep hNot, fun _ => hAnswer⟩

/- What is too deep for one step is too deep for both. -/
theorem AnswersUnless.bind
    {x : Except Fault α}
    {f : α → Except Fault β}
    (hFirst : AnswersUnless deep a x)
    (hNext : AnswersUnless later b (f a)) :
    AnswersUnless (deep ∨ later) b (x >>= f) := by
  by_cases hDeep : deep
  · rw [hFirst.1 hDeep]
    exact ⟨fun _ => rfl, fun hNot => absurd (.inl hDeep) hNot⟩
  · rw [hFirst.2 hDeep]
    exact ⟨fun hBoth => hNext.1 (hBoth.resolve_left hDeep),
      fun hNot => hNext.2 fun hLater => hNot (.inr hLater)⟩

theorem AnswersUnless.congr
    {x : Except Fault α}
    (hAnswers : AnswersUnless deep a x)
    (hSame : deep ↔ later) :
    AnswersUnless later a x := by
  rw [AnswersUnless, ← hSame]
  exact hAnswers

end Unless

end Outcome

------------------------------------------------------------
-- Spellings
------------------------------------------------------------

namespace OptionFields

/-
  The letters of a word in small forms, apart from the first of
  each run of letters.
-/
def titledFrom
    (afterLetter : Bool) :
    Text → Text
  | [] => []
  | c :: cs =>
      (if afterLetter then c.toLower else c.toUpper) ::
        titledFrom (c.isUpper || c.isLower) cs

/- A name without underscores, its later parts with capitals. -/
def camelCase
    (name : Text) :
    Text :=
  match Text.partsBetween '_' name with
  | [] => []
  | head :: rest => head ++ (rest.map (titledFrom false)).flatten

example : camelCase "print_speed" = "printSpeed" := by decide

/- The value for a field: under its name, or its other spelling. -/
def given
    (fields : Fields)
    (key : Text) :
    Value :=
  match fields.get? key with
  | some v => v
  | none => Value.fieldOf fields (camelCase key)

/- Fields with each name as it is, or in its other spelling. -/
def spelled
    (capitals : Text → Bool)
    (fields : Fields) :
    Fields :=
  fields.map fun (key, v) =>
    (if capitals key then camelCase key else key, v)

/- Whether two names differ in all spellings. -/
def AreApart
    (key other : Text) :
    Prop :=
  ∀ s ∈ [key, camelCase key], ∀ t ∈ [other, camelCase other],
    s ≠ t

instance
    (key other : Text) :
    Decidable (AreApart key other) := by
  unfold AreApart
  infer_instance

section Spelled

variable {fields : Fields}
variable {capitals : Text → Bool}
variable {key s : Text}
variable {v : Value}

/- The spelling of a name is one of two. -/
theorem spelling_mem
    (capitals : Text → Bool)
    (key : Text) :
    (if capitals key then camelCase key else key) ∈
      [key, camelCase key] := by
  split_ifs
  · exact List.mem_cons_of_mem _ List.mem_cons_self
  · exact List.mem_cons_self

/- No field is found under the spellings of another name. -/
theorem get?_spelled_of_apart
    (hApart : ∀ other ∈ fields.map Prod.fst, AreApart key other)
    (hSpelling : s ∈ [key, camelCase key]) :
    (spelled capitals fields).get? s = none := by
  rw [Fields.get?, List.lookup_eq_none_iff]
  intro field hField
  rcases List.mem_map.mp hField with ⟨⟨other, w⟩, hOther, rfl⟩
  rw [bne_iff_ne]
  exact hApart other (List.mem_map_of_mem hOther) s hSpelling _
    (spelling_mem capitals other)

/- A field is found under the spelling that it has. -/
theorem get?_spelled
    (capitals : Text → Bool)
    (hApart : (fields.map Prod.fst).Pairwise AreApart)
    (hField : (key, v) ∈ fields)
    (hSpelling : s ∈ [key, camelCase key]) :
    (spelled capitals fields).get? s =
      if (if capitals key then camelCase key else key) = s then
        some v
      else none := by
  induction fields with
  | nil => cases hField
  | cons field rest ih =>
      rcases List.pairwise_cons.mp hApart with ⟨hFirst, hRest⟩
      rcases List.mem_cons.mp hField with rfl | hLater
      · by_cases hSame :
          (if capitals key then camelCase key else key) = s
        · rw [if_pos hSame, ← hSame]
          exact List.lookup_cons_self
        · rw [if_neg hSame, spelled, List.map_cons, Fields.get?,
            List.lookup_cons, beq_eq_false_iff_ne.mpr
              (Ne.symm hSame)]
          exact get?_spelled_of_apart hFirst hSpelling
      · have hOther :
            (if capitals field.1 then camelCase field.1
              else field.1) ≠ s :=
          hFirst key (List.mem_map_of_mem (f := Prod.fst) hLater) _
            (spelling_mem capitals field.1) s hSpelling
        rw [spelled, List.map_cons, Fields.get?, List.lookup_cons,
          beq_eq_false_iff_ne.mpr hOther.symm]
        exact ih hRest hLater

/- So every field is given, whatever the spellings. -/
theorem given_spelled
    (hApart : (fields.map Prod.fst).Pairwise AreApart)
    (hField : (key, v) ∈ fields) :
    given (spelled capitals fields) key = v := by
  have hName :=
    get?_spelled capitals hApart hField
      List.mem_cons_self
  have hOther :=
    get?_spelled capitals hApart hField
      (List.mem_cons_of_mem _ List.mem_cons_self)
  unfold given
  cases hCapitals : capitals key with
  | false =>
      rw [hCapitals, if_neg Bool.false_ne_true, if_pos rfl] at hName
      rw [hName]
  | true =>
      rw [hCapitals, if_pos rfl] at hName hOther
      rw [if_pos rfl] at hOther
      rw [hName, Value.fieldOf, hOther]
      split_ifs
      · rfl
      · rfl

end Spelled

------------------------------------------------------------
-- Settled Fields
------------------------------------------------------------

/- An integer setting, a default for what is no finite number. -/
def settledWhole
    (default : Int)
    (v : Value) :
    Int :=
  match v.toDouble with
  | .ok x => if x.isFinite then x.halfAway else default
  | .error _ => default

/- The setting that is made of the value given for a field. -/
def settledSetting
    (fields : Fields)
    (key : Text)
    (default : Int) :
    Value :=
  .int (settledWhole default (given fields key))

/- A finite resolution above zero, or else the default one. -/
def settledResolution
    (v : Value) :
    Double :=
  match v.toDouble with
  | .ok x =>
      if x.isFinite && Double.lt 0 x then x else defaultResolution
  | .error _ => defaultResolution

/- The unit that a value names, dots for what names none. -/
def settledUnit
    [Machine]
    (v : Value) :
    LengthUnit :=
  match LengthUnit.ofValue v with
  | .ok u => u
  | .error _ => .dots

/- How the fields of the scale are settled. -/
def scaleSettling
    [Machine] :
    List (Text × (Value → Value)) :=
  [("dpi", fun v => .double (settledResolution v)),
    ("units", fun v => .text (settledUnit v).name)]

/- The integer settings of a language with their defaults. -/
def wholeSettings :
    Protocol → List (Text × Int)
  | .zpl => [("print_speed", 4), ("density", 8), ("tear_off", 0)]
  | .epl =>
      [("speed", 4), ("density", 1), ("copies", 1), ("gap", 26)]
  | .dpl => [("quantity", 1)]

/- How the fields of options are settled, each from a value. -/
def settling
    [Machine]
    (protocol : Protocol) :
    List (Text × (Value → Value)) :=
  scaleSettling ++
    (wholeSettings protocol).map fun (key, default) =>
      (key, fun v => .int (settledWhole default v))

/- The fields of options, each settled from the value given. -/
def settled
    [Machine]
    (protocol : Protocol)
    (fields : Fields) :
    Fields :=
  (settling protocol).map fun (key, settle) =>
    (key, settle (given fields key))

/-
  Whether a value for a unit is too deep in itself, for it to be
  looked up or complained about.
-/
def IsUnitTooDeep
    [Machine]
    (v : Value) :
    Prop :=
  ∃ f, LengthUnit.ofValue v = .error f ∧
    (f = .nestedTooDeep ∨
      v.checkShown .optionNotice = .error .nestedTooDeep)

/- Whether a value for a field is too deep in itself. -/
def IsTooDeep
    [Machine]
    (key : Text)
    (v : Value) :
    Prop :=
  if key = "units" then IsUnitTooDeep v
  else v.checkShown .optionNotice = .error .nestedTooDeep

theorem finite_settledResolution
    (v : Value) :
    (settledResolution v).isFinite = true ∧
      Double.lt 0 (settledResolution v) = true := by
  have hDefault :
      defaultResolution.isFinite = true ∧
        Double.lt 0 defaultResolution = true := by
    decide +kernel
  unfold settledResolution
  split
  · split_ifs with hUsable
    · exact Bool.and_eq_true_iff.mp hUsable
    · exact hDefault
  · exact hDefault

/- Whether reading an integer and rounding it leaves it. -/
def RoundsToItself
    (n : Int) :
    Prop :=
  ∃ x, Double.ofInt? n = some x ∧ x.isFinite = true ∧
    x.halfAway = n

theorem roundsToItself_settledWhole
    {default : Int}
    (hDefault : RoundsToItself default)
    (v : Value) :
    RoundsToItself (settledWhole default v) := by
  unfold settledWhole
  split
  · split_ifs with hFinite
    · exact Double.exists_halfAway_ofInt? _
    · exact hDefault
  · exact hDefault

/- All defaults are small integers. -/
theorem roundsToItself_default
    {protocol : Protocol}
    {key : Text}
    {default : Int}
    (hSetting : (key, default) ∈ wholeSettings protocol) :
    RoundsToItself default := by
  have hSmall :
      ∀ p, ∀ setting ∈ wholeSettings p,
        setting.2.natAbs < 2 ^ 52 := by
    intro p
    cases p with
    | _ => decide
  have hBits := hSmall protocol _ hSetting
  have hRange : 2 ^ 52 < Double.integerBound := by decide +kernel
  exact (Double.isSettled_of_lt hBits).exists_ofInt?
    (hBits.trans hRange)

------------------------------------------------------------
-- Reading Fields
------------------------------------------------------------

section Reading

open Outcome

variable {fields : Fields}
variable {key second : Text}
variable {default n : Int}
variable {x : Double}
variable {u : LengthUnit}

theorem eq_null
    {v : Value}
    (hNull : v.isNull = true) :
    v = .null := by
  cases v with
  | null => rfl
  | _ => cases hNull

/- A field fits if all fields do. -/
theorem fitsDouble_fieldOf
    (hFits : ∀ field ∈ fields, field.2.FitsDouble)
    (key : Text) :
    (Value.fieldOf fields key).FitsDouble := by
  rw [Value.fieldOf]
  cases hFound : fields.get? key with
  | none => exact fun n hSame => by cases hSame
  | some v =>
      rcases List.lookup_eq_some_iff.mp hFound with
        ⟨before, after, rfl, _⟩
      exact hFits (key, v)
        (List.mem_append_right _ List.mem_cons_self)

theorem given_of_plain
    (hPlain : camelCase key = key) :
    given fields key = Value.fieldOf fields key := by
  rw [given, hPlain, Value.fieldOf]
  cases fields.get? key with
  | none => rfl
  | some v => rfl

theorem toDouble_ne_tooLarge
    {v : Value}
    (hFits : v.FitsDouble) :
    v.toDouble ≠ .error .integerTooLarge := by
  intro hLarge
  rcases (Value.exists_doubleOr_iff 0).mpr hFits with ⟨x, hRead⟩
  rw [Value.doubleOr, hLarge] at hRead
  cases hRead

theorem fitsDouble_named
    (hFits : ∀ key, (Value.fieldOf fields key).FitsDouble)
    (key second : Text) :
    (named fields key second).FitsDouble := by
  unfold named
  cases hFound : fields.get? key with
  | none => exact hFits second
  | some v =>
      have hField := hFits key
      rw [Value.fieldOf, hFound] at hField
      exact hField

variable [Machine]

/- What is too deep in itself is neither null nor a number. -/
theorem toDouble_of_tooDeep
    {v : Value}
    {site : Site}
    (hDeep : v.checkShown site = .error .nestedTooDeep) :
    v.isNull = false ∧ v.toDouble = .error .wrongKind := by
  cases v with
  | int n =>
      have hNumeral : Value.checkNumeral n = .error .nestedTooDeep :=
        hDeep
      unfold Value.checkNumeral at hNumeral
      split_ifs at hNumeral with hLong
      cases hNumeral
  | null => cases hDeep
  | bool b => cases hDeep
  | double x => cases hDeep
  | text s => cases hDeep
  | _ => exact ⟨rfl, rfl⟩

/- A value is ignored unless it is too deep to complain about. -/
theorem answersUnless_ignoring
    {α : Type}
    (name : Text)
    (given : Value)
    (default : α)
    (used : Text) :
    AnswersUnless
      (given.checkShown .optionNotice = .error .nestedTooDeep)
      default (ignoring name given default used).result := by
  rw [ignoring, Outcome.result_bind, Outcome.result_noteShowing]
  constructor
  · intro hDeep
    rw [if_pos hDeep]
    rfl
  · intro hShown
    rw [if_neg hShown]
    rfl

/- A setting is settled from the value that is given for it. -/
theorem answersUnless_whole
    (hFits : ∀ key, (Value.fieldOf fields key).FitsDouble)
    (key second : Text)
    (default : Int)
    (hKey : key ≠ "units")
    (hSecond : camelCase key = second) :
    AnswersUnless (IsTooDeep key (given fields key))
      (settledSetting fields key default)
      (whole fields key second default).result := by
  have hNamed := fitsDouble_named hFits key second
  have hGiven : given fields key = named fields key second := by
    rw [← hSecond]
    rfl
  unfold whole settledSetting settledWhole
  rw [hGiven, IsTooDeep, if_neg hKey]
  dsimp only
  generalize named fields key second = v at hNamed ⊢
  have hIgnored := answersUnless_ignoring key v
    (Value.int default) (toString default)
  by_cases hDeep : v.checkShown .optionNotice = .error .nestedTooDeep
  · rcases toDouble_of_tooDeep hDeep with ⟨hSome, hNone⟩
    rw [hSome, hNone, if_neg Bool.false_ne_true]
    exact hIgnored
  · refine answersUnless_of_not hDeep ?_
    by_cases hNull : v.isNull = true
    · obtain rfl := eq_null hNull
      rfl
    · rw [if_neg hNull]
      cases hRead : v.toDouble with
      | ok x => rfl
      | error f =>
          cases f with
          | integerTooLarge =>
              exact absurd hRead (toDouble_ne_tooLarge hNamed)
          | _ => exact hIgnored.2 hDeep

/- So is the resolution. -/
theorem answersUnless_resolution
    (hFits : (Value.fieldOf fields "dpi").FitsDouble) :
    AnswersUnless (IsTooDeep "dpi" (given fields "dpi"))
      (settledResolution (given fields "dpi"))
      (resolution fields).result := by
  rw [given_of_plain (by decide)]
  unfold resolution settledResolution
  rw [IsTooDeep, if_neg (by decide)]
  dsimp only
  generalize Value.fieldOf fields "dpi" = v at hFits ⊢
  have hIgnored := answersUnless_ignoring "dpi" v
    defaultResolution defaultResolution.toText
  by_cases hDeep : v.checkShown .optionNotice = .error .nestedTooDeep
  · rcases toDouble_of_tooDeep hDeep with ⟨hSome, hNone⟩
    rw [hSome, hNone, if_neg Bool.false_ne_true]
    exact hIgnored
  · refine answersUnless_of_not hDeep ?_
    by_cases hNull : v.isNull = true
    · obtain rfl := eq_null hNull
      rfl
    · rw [if_neg hNull]
      cases hRead : v.toDouble with
      | ok x =>
          dsimp only
          split_ifs
          · rfl
          · exact hIgnored.2 hDeep
      | error f =>
          cases f with
          | integerTooLarge =>
              exact absurd hRead (toDouble_ne_tooLarge hFits)
          | _ => exact hIgnored.2 hDeep

/- So is the unit. -/
theorem answersUnless_units
    (fields : Fields) :
    AnswersUnless (IsTooDeep "units" (given fields "units"))
      (settledUnit (given fields "units"))
      (units fields).result := by
  rw [given_of_plain (by decide)]
  unfold units settledUnit
  rw [IsTooDeep, if_pos rfl, IsUnitTooDeep]
  dsimp only
  generalize Value.fieldOf fields "units" = v
  by_cases hNull : v.isNull = true
  · obtain rfl := eq_null hNull
    refine answersUnless_of_not ?_ rfl
    rintro ⟨f, hFault, _⟩
    cases hFault
  · rw [if_neg hNull]
    cases hRead : LengthUnit.ofValue v with
    | ok u =>
        refine answersUnless_of_not ?_ rfl
        rintro ⟨f, hFault, _⟩
        cases hFault
    | error f =>
        dsimp only
        have hIgnored := answersUnless_ignoring "units" v
          LengthUnit.dots (Text.quoted LengthUnit.dots.name)
        by_cases hFault : f = .nestedTooDeep
        · rw [if_pos hFault, hFault]
          exact ⟨fun _ => rfl,
            fun hShown => absurd ⟨_, rfl, .inl rfl⟩ hShown⟩
        · rw [if_neg hFault]
          constructor
          · rintro ⟨_, ⟨⟩, hSame | hDeep⟩
            · exact absurd hSame hFault
            · exact hIgnored.1 hDeep
          · intro hShown
            exact hIgnored.2 fun hDeep =>
              hShown ⟨f, rfl, .inr hDeep⟩

/- What is settled is read as it is, without notice. -/
theorem whole_of_int
    (hGiven : named fields key second = .int n)
    (hSettled : RoundsToItself n) :
    whole fields key second default = .ok (.int n) := by
  rcases hSettled with ⟨x, hRead, hFinite, hRounded⟩
  have hDouble : (Value.int n).toDouble = .ok x :=
    Value.toDouble_int hRead
  have hSome : ¬ (Value.int n).isNull = true := Bool.false_ne_true
  unfold whole
  dsimp only
  rw [hGiven, hDouble, if_neg hSome]
  dsimp only
  rw [if_pos hFinite, hRounded]

theorem resolution_of_double
    (hGiven : Value.fieldOf fields "dpi" = .double x)
    (hFinite : x.isFinite = true)
    (hPositive : Double.lt 0 x = true) :
    resolution fields = .ok x := by
  have hSome : ¬ (Value.double x).isNull = true :=
    Bool.false_ne_true
  have hDouble : (Value.double x).toDouble = .ok x := rfl
  unfold resolution
  dsimp only
  rw [hGiven, if_neg hSome, hDouble]
  dsimp only
  rw [hFinite, hPositive]
  rfl

theorem units_of_name
    (hGiven : Value.fieldOf fields "units" = .text u.name) :
    units fields = .ok u := by
  unfold units
  dsimp only
  rw [hGiven]
  cases u with
  | _ => rfl

end Reading

end OptionFields

------------------------------------------------------------
-- Settled Options
------------------------------------------------------------

section Steps

variable {α β : Type}

theorem Outcome.answer_bind
    (a : α)
    (f : α → Outcome β) :
    Outcome.ok a >>= f = f a :=
  rfl

theorem Outcome.lift_bind
    (a : α)
    (f : α → Outcome β) :
    (liftM (Except.ok a : Except Fault α) : Outcome α) >>= f =
      f a :=
  rfl

end Steps

/- What a scale is made of. -/
theorem Scale.of_make
    {x : Double}
    {units : LengthUnit}
    {s : Scale}
    (hMade : Scale.make (.double x) units = .ok s) :
    s.dpi = .double x ∧ s.units = units := by
  unfold make at hMade
  split at hMade
  · obtain rfl := Except.ok.inj hMade
    exact ⟨rfl, rfl⟩
  · cases hMade

/- A scale of a resolution above zero. -/
theorem Scale.exists_make
    {x : Double}
    (hPositive : Double.lt 0 x = true)
    (units : LengthUnit) :
    ∃ s, Scale.make (.double x) units = .ok s := by
  have hAccepted : resolutionOf (.double x) = .ok x := by
    unfold resolutionOf
    change (if Double.lt 0 x then _ else _) = _
    rw [if_pos hPositive]
    rfl
  unfold make
  split
  · exact ⟨_, rfl⟩
  · rename_i f hFault
    rw [hAccepted] at hFault
    cases hFault

/- A scale is made again of what it is made of. -/
theorem Scale.make_self
    (s : Scale) :
    Scale.make s.dpi s.units = .ok s := by
  unfold make
  split
  · rename_i resolution hAccepted
    obtain rfl : s.resolution = resolution :=
      Except.ok.inj (s.accepted.symm.trans hAccepted)
    rfl
  · rename_i f hFault
    have hBoth := s.accepted.symm.trans hFault
    cases hBoth

namespace PrinterOptions

/-
  Whether options have a finite resolution above zero, one of the
  units, and integers for all else.
-/
structure IsSettled
    (o : PrinterOptions) :
    Prop where
  dpi : ∃ x, o.scale.dpi = .double x ∧ x.isFinite = true ∧
    Double.lt 0 x = true
  unit : o.scale.units.name ∈ LengthUnit.names
  whole : ∀ field ∈ o.ownFields, ∃ n, field.2 = .int n

theorem pairwise_areApart
    (o : PrinterOptions) :
    (o.fields.map Prod.fst).Pairwise OptionFields.AreApart := by
  cases o with
  | zpl o =>
      change List.Pairwise OptionFields.AreApart
        ["dpi", "units", "print_speed", "density", "tear_off"]
      decide
  | epl o =>
      change List.Pairwise OptionFields.AreApart
        ["dpi", "units", "speed", "density", "copies", "gap"]
      decide
  | dpl o =>
      change List.Pairwise OptionFields.AreApart
        ["dpi", "units", "quantity"]
      decide

section Settling

variable {protocol : Protocol}
variable {fields : Fields}

theorem fields_ofValue
    (fields : Fields) :
    (OptionSource.data (.object fields)).fields = .ok fields := by
  cases fields with
  | nil => rfl
  | cons field rest => rfl

variable [Machine]

/-
  Whether some value for a field of the options is too deep in
  itself.
-/
def HasTooDeep
    (protocol : Protocol)
    (fields : Fields) :
    Prop :=
  ∃ key ∈ (OptionFields.settling protocol).map Prod.fst,
    OptionFields.IsTooDeep key (OptionFields.given fields key)

/- A scale whose fields are settled from given values. -/
theorem exists_settled_scale
    (fields : Fields) :
    ∃ s,
      Scale.make
          (.double (OptionFields.settledResolution
            (OptionFields.given fields "dpi")))
          (OptionFields.settledUnit
            (OptionFields.given fields "units")) =
        .ok s ∧
      s.fields =
        OptionFields.scaleSettling.map fun (key, settle) =>
          (key, settle (OptionFields.given fields key)) := by
  rcases Scale.exists_make
      (OptionFields.finite_settledResolution
        (OptionFields.given fields "dpi")).2
      (OptionFields.settledUnit
        (OptionFields.given fields "units")) with
    ⟨s, hScale⟩
  rcases Scale.of_make hScale with ⟨hDpi, hUnits⟩
  refine ⟨s, hScale, ?_⟩
  rw [Scale.fields, hDpi, hUnits]
  rfl

/-
  Options of ZPL whose fields are settled from given values.  The
  steps are those of the language, one for each field, and the
  scale is made at last.
-/
theorem exists_settled_zpl
    (hFits : ∀ key, (Value.fieldOf fields key).FitsDouble) :
    ∃ o : ZplOptions,
      Outcome.AnswersUnless (HasTooDeep .zpl fields)
        (PrinterOptions.zpl o)
        (ofSource .zpl (.data (.object fields))).result ∧
      (PrinterOptions.zpl o).fields =
        OptionFields.settled .zpl fields := by
  have hBuilt :
      (OptionSource.data (.object fields)).built? = none := rfl
  rcases exists_settled_scale fields with
    ⟨scale, hScale, hScaleFields⟩
  have hResolution :=
    OptionFields.answersUnless_resolution (hFits "dpi")
  have hUnits := OptionFields.answersUnless_units fields
  have hSpeed := OptionFields.answersUnless_whole hFits
    "print_speed" "printSpeed" 4 (by decide) (by decide)
  have hDensity := OptionFields.answersUnless_whole hFits
    "density" "density" 8 (by decide) (by decide)
  have hTearOff := OptionFields.answersUnless_whole hFits
    "tear_off" "tearOff" 0 (by decide) (by decide)
  refine
    ⟨⟨scale, OptionFields.settledSetting fields "print_speed" 4,
      OptionFields.settledSetting fields "density" 8,
      OptionFields.settledSetting fields "tear_off" 0⟩, ?_, ?_⟩
  · simp only [ofSource, ZplOptions.ofSource,
      ZplOptions.ofFields, hBuilt, fields_ofValue,
      Outcome.result_bind, Outcome.result_liftM,
      Outcome.result_pure, Outcome.ok_bind, bind_assoc]
    refine (hResolution.bind (hUnits.bind (hSpeed.bind
      (hDensity.bind (hTearOff.bind
        (Outcome.answersUnless_of_not not_false ?_)))))).congr ?_
    · rw [hScale]
      rfl
    · simp [HasTooDeep, OptionFields.settling,
        OptionFields.scaleSettling, OptionFields.wholeSettings]
  · rw [PrinterOptions.fields, PrinterOptions.scale, hScaleFields]
    rfl

/- So there are for EPL. -/
theorem exists_settled_epl
    (hFits : ∀ key, (Value.fieldOf fields key).FitsDouble) :
    ∃ o : EplOptions,
      Outcome.AnswersUnless (HasTooDeep .epl fields)
        (PrinterOptions.epl o)
        (ofSource .epl (.data (.object fields))).result ∧
      (PrinterOptions.epl o).fields =
        OptionFields.settled .epl fields := by
  have hBuilt :
      (OptionSource.data (.object fields)).built? = none := rfl
  rcases exists_settled_scale fields with
    ⟨scale, hScale, hScaleFields⟩
  have hResolution :=
    OptionFields.answersUnless_resolution (hFits "dpi")
  have hUnits := OptionFields.answersUnless_units fields
  have hSpeed := OptionFields.answersUnless_whole hFits
    "speed" "speed" 4 (by decide) (by decide)
  have hDensity := OptionFields.answersUnless_whole hFits
    "density" "density" 1 (by decide) (by decide)
  have hCopies := OptionFields.answersUnless_whole hFits
    "copies" "copies" 1 (by decide) (by decide)
  have hGap := OptionFields.answersUnless_whole hFits
    "gap" "gap" 26 (by decide) (by decide)
  refine
    ⟨⟨scale, OptionFields.settledSetting fields "speed" 4,
      OptionFields.settledSetting fields "density" 1,
      OptionFields.settledSetting fields "copies" 1,
      OptionFields.settledSetting fields "gap" 26⟩, ?_, ?_⟩
  · simp only [ofSource, EplOptions.ofSource,
      EplOptions.ofFields, hBuilt, fields_ofValue,
      Outcome.result_bind, Outcome.result_liftM,
      Outcome.result_pure, Outcome.ok_bind, bind_assoc]
    refine (hResolution.bind (hUnits.bind (hSpeed.bind
      (hDensity.bind (hCopies.bind (hGap.bind
        (Outcome.answersUnless_of_not not_false
          ?_))))))).congr ?_
    · rw [hScale]
      rfl
    · simp [HasTooDeep, OptionFields.settling,
        OptionFields.scaleSettling, OptionFields.wholeSettings]
  · rw [PrinterOptions.fields, PrinterOptions.scale, hScaleFields]
    rfl

/- So there are for DPL. -/
theorem exists_settled_dpl
    (hFits : ∀ key, (Value.fieldOf fields key).FitsDouble) :
    ∃ o : DplOptions,
      Outcome.AnswersUnless (HasTooDeep .dpl fields)
        (PrinterOptions.dpl o)
        (ofSource .dpl (.data (.object fields))).result ∧
      (PrinterOptions.dpl o).fields =
        OptionFields.settled .dpl fields := by
  have hBuilt :
      (OptionSource.data (.object fields)).built? = none := rfl
  rcases exists_settled_scale fields with
    ⟨scale, hScale, hScaleFields⟩
  have hResolution :=
    OptionFields.answersUnless_resolution (hFits "dpi")
  have hUnits := OptionFields.answersUnless_units fields
  have hQuantity := OptionFields.answersUnless_whole hFits
    "quantity" "quantity" 1 (by decide) (by decide)
  refine
    ⟨⟨scale, OptionFields.settledSetting fields "quantity" 1⟩,
      ?_, ?_⟩
  · simp only [ofSource, DplOptions.ofSource,
      DplOptions.ofFields, hBuilt, fields_ofValue,
      Outcome.result_bind, Outcome.result_liftM,
      Outcome.result_pure, Outcome.ok_bind, bind_assoc]
    refine (hResolution.bind (hUnits.bind (hQuantity.bind
        (Outcome.answersUnless_of_not not_false ?_)))).congr ?_
    · rw [hScale]
      rfl
    · simp [HasTooDeep, OptionFields.settling,
        OptionFields.scaleSettling, OptionFields.wholeSettings]
  · rw [PrinterOptions.fields, PrinterOptions.scale, hScaleFields]
    rfl

/- Options whose fields are settled from given values. -/
theorem exists_settled
    (hFits : ∀ key, (Value.fieldOf fields key).FitsDouble)
    (protocol : Protocol) :
    ∃ o,
      Outcome.AnswersUnless (HasTooDeep protocol fields) o
        (ofSource protocol (.data (.object fields))).result ∧
      o.protocol = protocol ∧
      o.fields = OptionFields.settled protocol fields := by
  cases protocol with
  | zpl =>
      rcases exists_settled_zpl hFits with ⟨o, hAnswers, hFields⟩
      exact ⟨.zpl o, hAnswers, rfl, hFields⟩
  | epl =>
      rcases exists_settled_epl hFits with ⟨o, hAnswers, hFields⟩
      exact ⟨.epl o, hAnswers, rfl, hFields⟩
  | dpl =>
      rcases exists_settled_dpl hFits with ⟨o, hAnswers, hFields⟩
      exact ⟨.dpl o, hAnswers, rfl, hFields⟩

/- Fields that are settled make settled options. -/
theorem isSettled_of_fields
    {o : PrinterOptions}
    (hFields :
      o.fields = OptionFields.settled o.protocol fields) :
    o.IsSettled ∧
      ∀ field ∈ o.ownFields, ∃ n, field.2 = .int n ∧
        OptionFields.RoundsToItself n := by
  rw [PrinterOptions.fields, OptionFields.settled,
    OptionFields.settling, List.map_append] at hFields
  rcases List.append_inj hFields rfl with ⟨hScale, hOwn⟩
  injection hScale with hDpi
  injection hDpi with _ hDpi
  have hWhole :
      ∀ field ∈ o.ownFields, ∃ n, field.2 = .int n ∧
        OptionFields.RoundsToItself n := by
    intro field hField
    rw [hOwn, List.map_map] at hField
    rcases List.mem_map.mp hField with ⟨⟨key, default⟩, hSetting, rfl⟩
    exact ⟨_, rfl, OptionFields.roundsToItself_settledWhole
      (OptionFields.roundsToItself_default hSetting) _⟩
  refine ⟨⟨⟨_, hDpi, OptionFields.finite_settledResolution _⟩,
    ?_, ?_⟩, hWhole⟩
  · cases o.scale.units with
    | _ => decide
  · intro field hField
    rcases hWhole field hField with ⟨n, hInt, _⟩
    exact ⟨n, hInt⟩

/- Settled options are read back from their fields. -/
theorem ofSource_of_given
    {o : PrinterOptions}
    (hSettled : o.IsSettled)
    (hWhole :
      ∀ field ∈ o.ownFields, ∃ n, field.2 = .int n ∧
        OptionFields.RoundsToItself n)
    (hGiven :
      ∀ key v, (key, v) ∈ o.fields →
        OptionFields.given fields key = v) :
    ofSource o.protocol (.data (.object fields)) = .ok o := by
  have hBuilt :
      (OptionSource.data (.object fields)).built? = none := rfl
  have hFields := fields_ofValue fields
  have hScaleGiven :
      ∀ field ∈ o.scale.fields,
        OptionFields.given fields field.1 = field.2 :=
    fun field hField => hGiven field.1 field.2
      (List.mem_append_left _ hField)
  rcases hSettled.dpi with ⟨x, hDpi, hFinite, hPositive⟩
  have hResolution :
      OptionFields.resolution fields = .ok x := by
    refine OptionFields.resolution_of_double ?_ hFinite hPositive
    rw [← OptionFields.given_of_plain (by decide), ← hDpi]
    exact hScaleGiven ("dpi", o.scale.dpi) List.mem_cons_self
  have hUnits :
      OptionFields.units fields = .ok o.scale.units := by
    refine OptionFields.units_of_name ?_
    rw [← OptionFields.given_of_plain (by decide)]
    exact hScaleGiven ("units", .text o.scale.units.name)
      (List.mem_cons_of_mem _ List.mem_cons_self)
  have hScale :
      Scale.make (.double x) o.scale.units = .ok o.scale := by
    rw [← hDpi]
    exact o.scale.make_self
  have hRead :
      ∀ key v second default, (key, v) ∈ o.ownFields →
        OptionFields.camelCase key = second →
          OptionFields.whole fields key second default = .ok v := by
    rintro key v second default hField rfl
    rcases hWhole _ hField with ⟨n, hInt, hRounds⟩
    obtain rfl : v = .int n := hInt
    exact OptionFields.whole_of_int
      (hGiven key _ (List.mem_append_right _ hField)) hRounds
  cases o with
  | zpl o =>
      have hSpeed := hRead "print_speed" o.printSpeed "printSpeed" 4
        (.head _) (by decide)
      have hDensity := hRead "density" o.density "density" 8
        (.tail _ (.head _)) (by decide)
      have hTearOff := hRead "tear_off" o.tearOff "tearOff" 0
        (.tail _ (.tail _ (.head _))) (by decide)
      simp only [PrinterOptions.protocol, ofSource,
        ZplOptions.ofSource, ZplOptions.ofFields, hBuilt, hFields,
        hResolution, hUnits, hSpeed, hDensity, hTearOff,
        Outcome.answer_bind, Outcome.lift_bind,
        PrinterOptions.scale] at hScale ⊢
      rw [hScale]
      rfl
  | epl o =>
      have hSpeed := hRead "speed" o.speed "speed" 4
        (.head _) (by decide)
      have hDensity := hRead "density" o.density "density" 1
        (.tail _ (.head _)) (by decide)
      have hCopies := hRead "copies" o.copies "copies" 1
        (.tail _ (.tail _ (.head _))) (by decide)
      have hGap := hRead "gap" o.gap "gap" 26
        (.tail _ (.tail _ (.tail _ (.head _)))) (by decide)
      simp only [PrinterOptions.protocol, ofSource,
        EplOptions.ofSource, EplOptions.ofFields, hBuilt, hFields,
        hResolution, hUnits, hSpeed, hDensity, hCopies, hGap,
        Outcome.answer_bind, Outcome.lift_bind,
        PrinterOptions.scale] at hScale ⊢
      rw [hScale]
      rfl
  | dpl o =>
      have hQuantity := hRead "quantity" o.quantity "quantity" 1
        (.head _) (by decide)
      simp only [PrinterOptions.protocol, ofSource,
        DplOptions.ofSource, DplOptions.ofFields, hBuilt, hFields,
        hResolution, hUnits, hQuantity, Outcome.answer_bind,
        Outcome.lift_bind, PrinterOptions.scale] at hScale ⊢
      rw [hScale]
      rfl

end Settling

/-
  Every object of values in range gives options with a resolution
  above zero, a unit and integers, each field settled by the one
  value that is given for it, unless one of these values is too
  deep in itself.  Read from their own fields, in either spelling,
  the options are the same, without notice.
-/
theorem ofSource_settled
    [Machine]
    {fields : Fields}
    (hFits : ∀ key, (Value.fieldOf fields key).FitsDouble)
    (protocol : Protocol) :
    (HasTooDeep protocol fields →
      (ofSource protocol (.data (.object fields))).result =
        .error .nestedTooDeep) ∧
    (¬ HasTooDeep protocol fields →
      ∃ o, (ofSource protocol (.data (.object fields))).result =
          .ok o ∧
        o.protocol = protocol ∧
        o.IsSettled ∧
        o.fields = OptionFields.settled protocol fields ∧
        ∀ capitals,
          ofSource protocol
              (.data (.object
                (OptionFields.spelled capitals o.fields))) =
            .ok o) := by
  rcases exists_settled hFits protocol with
    ⟨o, hAnswers, rfl, hFields⟩
  rcases isSettled_of_fields hFields with ⟨hSettled, hWhole⟩
  refine ⟨hAnswers.1, fun hShown => ?_⟩
  refine ⟨o, hAnswers.2 hShown, rfl, hSettled, hFields,
    fun capitals => ?_⟩
  exact ofSource_of_given hSettled hWhole fun key v hField =>
    OptionFields.given_spelled (pairwise_areApart o) hField

/- Fields of all kinds, some of which are of no use. -/
def mixedFields : Fields :=
  [("printSpeed", .double (15 / 2)), ("units", .text " Inches "),
    ("density", .list []), ("dpi", .int (-3)),
    ("tear_off", .bool true), ("tearOff", .int 9)]

/- The fields of the ZPL options that are made of them. -/
def settledMixedFields : Fields :=
  [("dpi", .double 203), ("units", .text "in"),
    ("print_speed", .int 8), ("density", .int 8),
    ("tear_off", .int 1)]

/- Options that fall back to some defaults, read again. -/
theorem ofSource_settled_mixed :
    (∀ key, (Value.fieldOf mixedFields key).FitsDouble) ∧
      ¬ HasTooDeep .zpl mixedFields ∧
      ∃ o, (ofSource .zpl (.data (.object mixedFields))).result =
          .ok o ∧
        o.fields = settledMixedFields ∧
        ofSource .zpl
            (.data
              (.object
                (OptionFields.spelled (fun _ => true) o.fields))) =
          .ok o := by
  have hFits :
      ∀ key, (Value.fieldOf mixedFields key).FitsDouble :=
    OptionFields.fitsDouble_fieldOf (by decide +kernel)
  have hShown : ¬ HasTooDeep .zpl mixedFields := by
    intro hDeep
    have hFault := (ofSource_settled hFits .zpl).1 hDeep
    cases hFault
  rcases (ofSource_settled hFits .zpl).2 hShown with
    ⟨o, hOptions, _, _, hFields, hAgain⟩
  have hValues :
      OptionFields.settled .zpl mixedFields =
        settledMixedFields := by
    rfl
  exact ⟨hFits, hShown, o, hOptions, hFields.trans hValues,
    hAgain fun _ => true⟩

/- A unit that is too deep in itself leaves no options. -/
theorem result_ofSource_of_deep_unit
    [Machine]
    {v : Value}
    (hFits : v.FitsDouble)
    (hDeep : OptionFields.IsUnitTooDeep v)
    (protocol : Protocol) :
    (∀ key, (Value.fieldOf [("units", v)] key).FitsDouble) ∧
      (ofSource protocol
          (.data (.object [("units", v)]))).result =
        .error .nestedTooDeep := by
  have hAll :
      ∀ key, (Value.fieldOf [("units", v)] key).FitsDouble :=
    OptionFields.fitsDouble_fieldOf
      (List.forall_mem_singleton.mpr hFits)
  rcases exists_settled hAll protocol with ⟨o, hAnswers, _⟩
  exact ⟨hAll, hAnswers.1
    ⟨"units", List.mem_cons_of_mem _ List.mem_cons_self, hDeep⟩⟩

/- So a unit that is bound over often enough leaves none. -/
theorem ofSource_too_deep :
    (∀ key,
      (Value.fieldOf [("units", Value.boundOver 340)]
        key).FitsDouble) ∧
      (ofSource .zpl (.data (.object
          [("units", Value.boundOver 340)]))).result =
        .error .nestedTooDeep := by
  have hUnit :
      LengthUnit.ofValue (Value.boundOver 340) =
        .error .nestedTooDeep := by
    rw [LengthUnit.ofValue, Value.checkShown,
      Value.checkInspected_boundOver (by decide)]
    rfl
  have hDeep : OptionFields.IsUnitTooDeep (Value.boundOver 340) :=
    ⟨_, hUnit, .inl rfl⟩
  exact result_ofSource_of_deep_unit
    (Value.fitsDouble_boundOver 340) hDeep .zpl

end PrinterOptions

end LabelPress
