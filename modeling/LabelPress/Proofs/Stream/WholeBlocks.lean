import LabelPress.Machine.Usual
import LabelPress.Proofs.Double.HalfAway
import LabelPress.Proofs.Stream.Answers
import LabelPress.Proofs.Stream.SilentEntries

/-
  Blocks that are whole or not there.

  Encoding an element converts some of its values, one after
  another: numbers must be in range, a rotation may have to be a
  key, a record must be there to be read, and what is printed as
  a text must be a value that can be shown.  The first conversion
  that fails decides for the whole block.  Its fault is one that
  the guard around the encoders takes, unless a value is too deep
  in itself.  Nothing else can fail, so that otherwise all lines
  are there.

  Main declarations:
    * `Conversion`, `Conversion.firstFault`
    * `Follows`, with `Follows.bind`
    * `Printer.conversions`, `Printer.lineCount`
    * `Printer.follows_block`
    * `Printer.encode_all_or_nothing`
-/

namespace LabelPress

------------------------------------------------------------
-- Conversions
------------------------------------------------------------

/- A conversion that encoding an element asks for. -/
inductive Conversion where
  /- of a value to a number -/
  | number (v : Value)
  /- of a value to the key of a look-up -/
  | key (v : Value)
  /- of a value to a text -/
  | shown (site : Site) (v : Value)
  /- of a value to a record that has no such part -/
  | missing

namespace Conversion

variable [Machine]

/- The fault of a conversion that fails. -/
def fault? :
    Conversion → Option Fault
  | number v =>
      if v.FitsDouble then none else some .integerTooLarge
  | key v =>
      match v.checkLookedUp .rotation with
      | .ok _ => none
      | .error f => some f
  | shown site v =>
      match v.checkShown site with
      | .ok _ => none
      | .error f => some f
  | missing => some .missingPart

/- The fault of the first conversion that fails. -/
def firstFault
    (cs : List Conversion) :
    Option Fault :=
  cs.findSome? fault?

end Conversion

/- What is converted of a part, if it can be read. -/
def conversionsOf
    {α : Type}
    (r : Except Fault α)
    (f : α → List Conversion) :
    List Conversion :=
  match r with
  | .ok a => f a
  | .error _ => [.missing]

------------------------------------------------------------
-- Steps that Follow Conversions
------------------------------------------------------------

/-
  Whether a step fails as the first failing one of some
  conversions, and otherwise answers with some property.
-/
def Follows
    [Machine]
    {α : Type}
    (cs : List Conversion)
    (P : α → Prop)
    (r : Except Fault α) :
    Prop :=
  match Conversion.firstFault cs with
  | some f => r = .error f
  | none => ∃ a, r = .ok a ∧ P a

section Steps

variable [Machine]
variable {α β : Type}
variable {c d : List Conversion}
variable {P : α → Prop}
variable {Q : β → Prop}
variable {r : Except Fault α}
variable {f : α → Except Fault β}

theorem follows_ok
    {a : α}
    (hP : P a) :
    Follows [] P (.ok a) :=
  ⟨a, rfl, hP⟩

/- Steps in a row follow their conversions in a row. -/
theorem Follows.bind
    (hFirst : Follows c P r)
    (hNext : ∀ a, P a → Follows d Q (f a)) :
    Follows (c ++ d) Q (r >>= f) := by
  unfold Follows Conversion.firstFault at *
  rw [List.findSome?_append]
  cases hFault : c.findSome? Conversion.fault? with
  | some fault =>
      rw [hFault] at hFirst
      rw [hFirst]
      rfl
  | none =>
      rw [hFault] at hFirst
      rcases hFirst with ⟨a, rfl, ha⟩
      exact hNext a ha

theorem Follows.imp
    {P' : α → Prop}
    (hFollows : Follows c P r)
    (hImplies : ∀ a, P a → P' a) :
    Follows c P' r := by
  unfold Follows at *
  cases hFault : Conversion.firstFault c with
  | some fault =>
      rw [hFault] at hFollows
      exact hFollows
  | none =>
      rw [hFault] at hFollows
      rcases hFollows with ⟨a, ha, hP⟩
      exact ⟨a, ha, hImplies a hP⟩

/- What is done with an answer does not fail. -/
theorem Follows.map
    {g : α → β}
    (hFollows : Follows c P r)
    (hAnswer : ∀ a, P a → Q (g a)) :
    Follows c Q (r >>= fun a => pure (g a)) := by
  have hBoth := hFollows.bind (d := []) (f := fun a => pure (g a))
    fun a ha => follows_ok (hAnswer a ha)
  rwa [List.append_nil] at hBoth

/- Reading a part is a conversion of its own. -/
theorem follows_part
    {g : α → List Conversion}
    (hMissing : ∀ fault, r = .error fault → fault = .missingPart)
    (hNext : ∀ a, r = .ok a → Follows (g a) Q (f a)) :
    Follows (conversionsOf r g) Q (r >>= f) := by
  cases r with
  | ok a => exact hNext a rfl
  | error fault =>
      obtain rfl := hMissing fault rfl
      rfl

end Steps

------------------------------------------------------------
-- Numbers and Keys
------------------------------------------------------------

section Numbers

variable {scale : Scale}
variable {v w : Value}
variable [Machine]

theorem follows_number
    (v : Value) :
    Follows [.number v] (fun x => v.doubleOrNaN = .ok x)
      v.doubleOrNaN := by
  rcases v.doubleOr_cases .nan with ⟨hFits, x, hRead⟩ | ⟨hLarge, hFault⟩
  · have hNone : Conversion.firstFault [.number v] = none := by
      simp [Conversion.firstFault, Conversion.fault?, hFits]
    rw [Follows, hNone]
    exact ⟨x, hRead, hRead⟩
  · have hSome :
        Conversion.firstFault [.number v] = some .integerTooLarge := by
      simp [Conversion.firstFault, Conversion.fault?, hLarge]
    rw [Follows, hSome]
    exact hFault

omit [Machine] in
theorem fitsDouble_of_doubleOrNaN
    {x : Double}
    (hRead : v.doubleOrNaN = .ok x) :
    v.FitsDouble :=
  (Value.exists_doubleOr_iff .nan).mp ⟨x, hRead⟩

/- A number of dots is in the range of doubles again. -/
theorem follows_dots
    (scale : Scale)
    (v : Value) :
    Follows [.number v]
      (fun n => v.FitsDouble ∧ n.natAbs < Double.integerBound)
      (scale.dots v) :=
  (follows_number v).map fun _ hRead =>
    ⟨fitsDouble_of_doubleOrNaN hRead, Double.natAbs_halfAway_lt _⟩

/- A check is a conversion that gives nothing. -/
theorem follows_check
    {c : Conversion}
    {r : Except Fault Unit}
    (hCheck :
      c.fault? =
        match r with
        | .ok _ => none
        | .error f => some f) :
    Follows [c] (fun _ => True) r := by
  have hFirst : Conversion.firstFault [c] = c.fault? := by
    rw [Conversion.firstFault, List.findSome?_singleton]
  rw [Follows, hFirst, hCheck]
  cases r with
  | ok _ => exact ⟨(), rfl, trivial⟩
  | error f => rfl

theorem follows_key
    (rotation : Value) :
    Follows [.key rotation] (fun _ => True)
      (Zpl.orientationFor rotation) :=
  (follows_check rfl).map fun _ _ => trivial

theorem follows_shown
    (site : Site)
    (v : Value) :
    Follows [.shown site v] (fun _ => True) (v.checkShown site) :=
  follows_check rfl

theorem follows_quarterTurns
    (rotation : Value) :
    Follows [.number rotation] (fun _ => True)
      (Epl.quarterTurns rotation) :=
  ((follows_number rotation).map fun _ _ => trivial).map
    (P := fun _ => True) fun _ _ => trivial

theorem follows_originAt
    (scale : Scale)
    (x y : Value) :
    Follows [.number x, .number y]
      (fun _ => x.FitsDouble ∧ y.FitsDouble)
      (Zpl.originAt scale x y) :=
  (follows_dots scale x).bind fun _ hX =>
    (follows_dots scale y).map fun _ hY => ⟨hX.1, hY.1⟩

theorem follows_positionOf
    (scale : Scale)
    (v : Value) :
    Follows [.number v] (fun _ => True)
      (Dpl.positionOf scale v) :=
  (follows_dots scale v).map fun _ _ => trivial

/- The bytes of a number of dots in range can be worked out. -/
theorem follows_bytesForDots
    {n : Int}
    (hRange : n.natAbs < Double.integerBound) :
    Follows [] (fun _ => True) (bytesForDots n) := by
  have hPart : ∃ x, Double.ofQuotient? n 8 = some x :=
    Double.exists_ofQuotient? hRange (k := 3) (by decide)
      (by decide)
  rcases hPart with ⟨x, hQuotient⟩
  rw [bytesForDots, hQuotient]
  exact follows_ok trivial

end Numbers

------------------------------------------------------------
-- Conversions of Elements
------------------------------------------------------------

/- The conversions for the fields of an element, in order. -/
def Zpl.conversions
    (e : Element) :
    List Conversion :=
  match e.content with
  | .text stored => conversionsOf stored.get fun q =>
      [.number q.fontSize, .key e.rotation, .number e.x, .number e.y,
        .shown .alignment q.alignment, .shown .zplData q.text]
  | .line stored => conversionsOf stored.get fun q =>
      [.number q.thickness, .number e.x, .number e.y,
        .number e.width, .shown .color q.color]
  | .box stored =>
      [.number e.width, .number e.height] ++
        conversionsOf stored.get fun q =>
          [.number q.borderWidth, .shown .color q.borderColor,
            .shown .fill q.fillColor, .number e.x, .number e.y,
            .number q.cornerRadius]
  | .circle stored =>
      [.number e.width, .number e.height, .number e.x,
          .number e.y] ++
        conversionsOf stored.circleProperties fun q =>
          [.number q.borderWidth, .shown .color q.borderColor]
  | .barcode stored => conversionsOf stored.get fun q =>
      if Symbology.ofValue? q.symbology = none then []
      else
        [.key e.rotation, .number e.x, .number e.y,
          .number e.height, .shown .zplData q.data]
  | .image stored => conversionsOf stored.get fun q =>
      if q.src.truthy then
        [.number e.width, .number e.height, .number e.x,
          .number e.y]
      else []
  | .unknown .. => []
  | .bare => []

/- The conversions for the records of an element, in order. -/
def Epl.conversions
    (e : Element) :
    List Conversion :=
  match e.content with
  | .text stored => conversionsOf stored.get fun q =>
      [.number q.fontSize, .number e.x, .number e.y,
        .number e.rotation, .shown .eplData q.text]
  | .line stored => conversionsOf stored.get fun q =>
      [.number q.thickness, .number e.x, .number e.y,
        .number e.width]
  | .box stored =>
      [.number e.x, .number e.y] ++
        conversionsOf stored.boxBorder fun border =>
          [.number border, .number e.width, .number e.height]
  | .circle _ => []
  | .barcode stored => conversionsOf stored.get fun q =>
      if Symbology.ofValue? q.symbology = none then []
      else
        [.number e.x, .number e.y, .number e.rotation,
          .number e.height, .shown .eplData q.data]
  | .image stored => conversionsOf stored.get fun q =>
      if q.src.truthy then
        [.number e.width, .number e.x, .number e.y,
          .number e.height]
      else []
  | .unknown .. => []
  | .bare => []

/- The conversions for the records of an element, in order. -/
def Dpl.conversions
    (e : Element) :
    List Conversion :=
  match e.content with
  | .text stored =>
      [.number e.x, .number e.y] ++
        conversionsOf stored.get fun q => [.shown .dplData q.text]
  | .barcode stored => conversionsOf stored.get fun q =>
      if Symbology.ofValue? q.symbology = none then []
      else
        [.number e.x, .number e.y, .number e.height,
          .shown .dplData q.data]
  | _ => []

/- The conversions for the block of an element, in order. -/
def Printer.conversions
    (p : Printer)
    (e : Element) :
    List Conversion :=
  match p.options with
  | .zpl _ => Zpl.conversions e
  | .epl _ => Epl.conversions e
  | .dpl _ => Dpl.conversions e

------------------------------------------------------------
-- Lines of Elements
------------------------------------------------------------

instance
    (content : Content) :
    Decidable content.IsBlank :=
  match content with
  | .barcode (.record q) =>
      inferInstanceAs
        (Decidable (Symbology.ofValue? q.symbology = none))
  | .image (.record q) =>
      inferInstanceAs (Decidable (q.src.truthy = false))
  | .unknown .. => .isTrue trivial
  | .bare => .isTrue trivial
  | .text _ | .line _ | .box _ | .circle _
  | .barcode (.foreign _) | .image (.foreign _) => .isFalse id

/- Whether a content is a box with a corner radius above zero. -/
def Content.isRounded :
    Content → Bool
  | .box (.record q) =>
      match q.cornerRadius.doubleOrNaN with
      | .ok radius => Double.lt 0 radius
      | .error _ => false
  | _ => false

/-
  The number of lines of an element when it can be encoded: none
  when there is nothing to print, two for a rounded box in ZPL.
-/
def Printer.lineCount
    (p : Printer)
    (e : Element) :
    Nat :=
  if e.content.IsBlank ∨ p.lacks e.content = true then 0
  else if p.protocol = .zpl ∧ e.content.isRounded = true then 2
  else 1

------------------------------------------------------------
-- Fields and Records
------------------------------------------------------------

/- Only a part that is not there cannot be read. -/
theorem Stored.get_missing
    {α : Type}
    (stored : Stored α)
    (fault : Fault)
    (hFault : stored.get = .error fault) :
    fault = .missingPart := by
  cases stored with
  | record r => cases hFault
  | foreign v => exact (Except.error.inj hFault).symm

theorem Stored.eq_record_of_get
    {α : Type}
    {stored : Stored α}
    {r : α}
    (hStored : stored.get = .ok r) :
    stored = .record r := by
  cases stored with
  | record r' => exact congrArg _ (Except.ok.inj hStored)
  | foreign v => cases hStored

theorem Stored.circleProperties_missing
    (stored : Stored CircleProperties)
    (fault : Fault)
    (hFault : stored.circleProperties = .error fault) :
    fault = .missingPart := by
  unfold circleProperties at hFault
  split at hFault
  · cases hFault
  · exact stored.get_missing fault hFault

theorem Stored.boxBorder_missing
    (stored : Stored BoxProperties)
    (fault : Fault)
    (hFault : stored.boxBorder = .error fault) :
    fault = .missingPart := by
  unfold boxBorder at hFault
  split at hFault
  · cases hFault
  · rcases Outcome.bind_eq_error_iff.mp hFault with
      hGet | ⟨q, _, hPure⟩
    · exact stored.get_missing fault hGet
    · cases hPure

section Choices

variable [Machine]
variable {α : Type}
variable {cs : List Conversion}

/- A barcode has one line, or none for an unknown symbology. -/
theorem follows_barcode
    (stored : Stored BarcodeProperties)
    {cs : BarcodeProperties → List Conversion}
    {step : BarcodeProperties → Symbology →
      Except Fault (Option α)}
    (hKnown :
      ∀ q symbology,
        Follows (cs q) (fun a? => a?.toList.length = 1)
          (step q symbology)) :
    Follows
      (conversionsOf stored.get fun q =>
        if Symbology.ofValue? q.symbology = none then [] else cs q)
      (fun a? => a?.toList.length =
        if (Content.barcode stored).IsBlank then 0 else 1)
      (do
        let q ← stored.get
        match Symbology.ofValue? q.symbology with
        | none => return none
        | some symbology => step q symbology) := by
  refine follows_part stored.get_missing fun q hStored => ?_
  obtain rfl := Stored.eq_record_of_get hStored
  cases hSymbology : Symbology.ofValue? q.symbology with
  | none =>
      have hBlank : (Content.barcode (.record q)).IsBlank :=
        hSymbology
      simp only [hBlank, if_true]
      exact follows_ok rfl
  | some symbology =>
      have hSome : ¬ (Content.barcode (.record q)).IsBlank := by
        rw [Content.IsBlank, hSymbology]
        exact Option.some_ne_none symbology
      simp only [hSome, if_false]
      exact hKnown q symbology

/- An image has one line, or none without a source. -/
theorem follows_image
    (stored : Stored ImageProperties)
    {step : ImageProperties → Except Fault (Option α)}
    (hSource :
      ∀ q, Follows cs (fun a? => a?.toList.length = 1) (step q)) :
    Follows
      (conversionsOf stored.get fun q =>
        if q.src.truthy then cs else [])
      (fun a? => a?.toList.length =
        if (Content.image stored).IsBlank then 0 else 1)
      (do
        let q ← stored.get
        if q.src.truthy then step q else return none) := by
  refine follows_part stored.get_missing fun q hStored => ?_
  obtain rfl := Stored.eq_record_of_get hStored
  cases hSrc : q.src.truthy with
  | false =>
      have hBlank : (Content.image (.record q)).IsBlank := hSrc
      simp only [hBlank, if_true]
      exact follows_ok rfl
  | true =>
      have hSome : ¬ (Content.image (.record q)).IsBlank := by
        rw [Content.IsBlank, hSrc]
        exact Bool.false_ne_true.symm
      simp only [hSome, if_false]
      exact hSource q

end Choices

section Encoders

variable [Machine]
variable {scale : Scale}
variable {place : Placement}

theorem Zpl.follows_textField
    (stored : Stored TextProperties) :
    Follows
      (conversionsOf stored.get fun q =>
        [.number q.fontSize, .key place.rotation, .number place.x,
          .number place.y, .shown .alignment q.alignment,
          .shown .zplData q.text])
      (fun _ => True) (Zpl.textField scale place stored) :=
  follows_part stored.get_missing fun q _ =>
    (follows_number q.fontSize).bind fun _ _ =>
      (follows_key place.rotation).bind fun _ _ =>
        (follows_originAt scale place.x place.y).bind fun _ _ =>
          (follows_shown .alignment q.alignment).bind fun _ _ =>
            (follows_shown .zplData q.text).map fun _ _ => trivial

theorem Zpl.follows_lineField
    (stored : Stored LineProperties) :
    Follows
      (conversionsOf stored.get fun q =>
        [.number q.thickness, .number place.x, .number place.y,
          .number place.width, .shown .color q.color])
      (fun _ => True) (Zpl.lineField scale place stored) :=
  follows_part stored.get_missing fun q _ =>
    (follows_dots scale q.thickness).bind fun _ _ =>
      (follows_originAt scale place.x place.y).bind fun _ _ =>
        (follows_dots scale place.width).bind fun _ _ =>
          (follows_shown .color q.color).map fun _ _ => trivial

/- The bar of a rounded box converts nothing for the first time. -/
theorem Zpl.follows_cornerBar?
    (scale : Scale)
    (hX : place.x.FitsDouble)
    (hY : place.y.FitsDouble)
    (hWidth : place.width.FitsDouble)
    (border : Int)
    (ink : Zpl.Ink)
    (radius : Double) :
    Follows []
      (fun bar => bar.toList.length =
        if Double.lt 0 radius then 1 else 0)
      (Zpl.cornerBar? scale place border ink radius) := by
  rcases (Value.exists_doubleOr_iff .nan).mpr hX with ⟨x, hx⟩
  rcases (Value.exists_doubleOr_iff .nan).mpr hWidth with ⟨w, hw⟩
  rcases scale.exists_dots hY with ⟨y, hy⟩
  unfold Zpl.cornerBar?
  cases hRound : Double.lt 0 radius with
  | false => exact follows_ok rfl
  | true =>
      rw [Value.doubleOrNaN, Value.doubleOrNaN, hx, hw, hy]
      exact follows_ok rfl

theorem Zpl.follows_boxFields
    (stored : Stored BoxProperties) :
    Follows
      ([.number place.width, .number place.height] ++
        conversionsOf stored.get fun q =>
          [.number q.borderWidth, .shown .color q.borderColor,
            .shown .fill q.fillColor, .number place.x,
            .number place.y, .number q.cornerRadius])
      (fun fields => fields.length =
        if (Content.box stored).isRounded then 2 else 1)
      (Zpl.boxFields scale place stored) := by
  refine (follows_dots scale place.width).bind
    (d := .number place.height :: _) fun width hWidth =>
      (follows_dots scale place.height).bind fun height _ =>
        follows_part stored.get_missing fun q hStored =>
          (follows_dots scale q.borderWidth).bind fun outline _ =>
          (follows_shown .color q.borderColor).bind fun _ _ =>
          (follows_shown .fill q.fillColor).bind fun _ _ =>
            (follows_originAt scale place.x place.y).bind
              fun origin hOrigin => ?_
  have hBar :=
    Zpl.follows_cornerBar? scale hOrigin.1 hOrigin.2 hWidth.1
      (if hasFill q.fillColor then min width height else outline)
      (Zpl.inkFor q.borderColor)
  refine (follows_number q.cornerRadius).bind (d := [])
    fun radius hRadius => (hBar radius).map fun bar hCount => ?_
  rw [List.length_cons, hCount, Stored.eq_record_of_get hStored,
    Content.isRounded, hRadius]
  dsimp only
  split_ifs
  · rfl
  · rfl

theorem Zpl.follows_circleField
    (stored : Stored CircleProperties) :
    Follows
      ([.number place.width, .number place.height, .number place.x,
          .number place.y] ++
        conversionsOf stored.circleProperties fun q =>
          [.number q.borderWidth, .shown .color q.borderColor])
      (fun _ => True) (Zpl.circleField scale place stored) :=
  (follows_number place.width).bind
    (d := .number place.height :: .number place.x :: _) fun _ _ =>
    (follows_number place.height).bind
      (d := .number place.x :: _) fun _ _ =>
      (follows_number place.x).bind
        (d := .number place.y :: _) fun _ _ =>
        (follows_number place.y).bind fun _ _ =>
          follows_part stored.circleProperties_missing fun q _ =>
            (follows_dots scale q.borderWidth).bind fun _ _ =>
              (follows_shown .color q.borderColor).map
                fun _ _ => trivial

theorem Zpl.follows_barcodeField?
    (stored : Stored BarcodeProperties) :
    Follows
      (conversionsOf stored.get fun q =>
        if Symbology.ofValue? q.symbology = none then []
        else
          [.key place.rotation, .number place.x, .number place.y,
            .number place.height, .shown .zplData q.data])
      (fun field? => field?.toList.length =
        if (Content.barcode stored).IsBlank then 0 else 1)
      (Zpl.barcodeField? scale place stored) :=
  follows_barcode stored fun q _ =>
    (follows_key place.rotation).bind fun _ _ =>
      (follows_originAt scale place.x place.y).bind fun _ _ =>
        (follows_dots scale place.height).bind fun _ _ =>
          (follows_shown .zplData q.data).map fun _ _ => rfl

theorem Zpl.follows_imageField?
    (stored : Stored ImageProperties) :
    Follows
      (conversionsOf stored.get fun q =>
        if q.src.truthy then
          [.number place.width, .number place.height,
            .number place.x, .number place.y]
        else [])
      (fun field? => field?.toList.length =
        if (Content.image stored).IsBlank then 0 else 1)
      (Zpl.imageField? scale place stored) :=
  follows_image stored fun _ =>
    (follows_dots scale place.width).bind
      (d := .number place.height :: _) fun _ hWidth =>
        (follows_dots scale place.height).bind fun _ _ =>
          (follows_bytesForDots hWidth.2).bind fun _ _ =>
            (follows_originAt scale place.x place.y).map
              fun _ _ => rfl

theorem Epl.follows_textRecord
    (stored : Stored TextProperties) :
    Follows
      (conversionsOf stored.get fun q =>
        [.number q.fontSize, .number place.x, .number place.y,
          .number place.rotation, .shown .eplData q.text])
      (fun _ => True) (Epl.textRecord scale place stored) :=
  follows_part stored.get_missing fun q _ =>
    (follows_number q.fontSize).bind fun _ _ =>
      (follows_dots scale place.x).bind fun _ _ =>
        (follows_dots scale place.y).bind fun _ _ =>
          (follows_quarterTurns place.rotation).bind fun _ _ =>
            (follows_shown .eplData q.text).map fun _ _ => trivial

theorem Epl.follows_lineRecord
    (stored : Stored LineProperties) :
    Follows
      (conversionsOf stored.get fun q =>
        [.number q.thickness, .number place.x, .number place.y,
          .number place.width])
      (fun _ => True) (Epl.lineRecord scale place stored) :=
  follows_part stored.get_missing fun q _ =>
    (follows_dots scale q.thickness).bind fun _ _ =>
      (follows_dots scale place.x).bind fun _ _ =>
        (follows_dots scale place.y).bind fun _ _ =>
          (follows_dots scale place.width).map fun _ _ => trivial

theorem Epl.follows_boxRecord
    (stored : Stored BoxProperties) :
    Follows
      ([.number place.x, .number place.y] ++
        conversionsOf stored.boxBorder fun border =>
          [.number border, .number place.width,
            .number place.height])
      (fun _ => True) (Epl.boxRecord scale place stored) :=
  (follows_number place.x).bind (d := .number place.y :: _)
    fun _ _ =>
      (follows_number place.y).bind fun _ _ =>
        follows_part stored.boxBorder_missing fun border _ =>
          (follows_dots scale border).bind fun _ _ =>
            (follows_number place.width).bind fun _ _ =>
              (follows_number place.height).map
                fun _ _ => trivial

theorem Epl.follows_barcodeRecord?
    (stored : Stored BarcodeProperties) :
    Follows
      (conversionsOf stored.get fun q =>
        if Symbology.ofValue? q.symbology = none then []
        else
          [.number place.x, .number place.y, .number place.rotation,
            .number place.height, .shown .eplData q.data])
      (fun record? => record?.toList.length =
        if (Content.barcode stored).IsBlank then 0 else 1)
      (Epl.barcodeRecord? scale place stored) :=
  follows_barcode stored fun q _ =>
    (follows_dots scale place.x).bind fun _ _ =>
      (follows_dots scale place.y).bind fun _ _ =>
        (follows_quarterTurns place.rotation).bind fun _ _ =>
          (follows_dots scale place.height).bind fun _ _ =>
            (follows_shown .eplData q.data).map fun _ _ => rfl

theorem Epl.follows_imageRecord?
    (stored : Stored ImageProperties) :
    Follows
      (conversionsOf stored.get fun q =>
        if q.src.truthy then
          [.number place.width, .number place.x, .number place.y,
            .number place.height]
        else [])
      (fun record? => record?.toList.length =
        if (Content.image stored).IsBlank then 0 else 1)
      (Epl.imageRecord? scale place stored) :=
  follows_image stored fun _ =>
    (follows_dots scale place.width).bind fun _ hWidth =>
      (follows_bytesForDots hWidth.2).bind fun _ _ =>
        (follows_dots scale place.x).bind fun _ _ =>
          (follows_dots scale place.y).bind fun _ _ =>
            (follows_dots scale place.height).map fun _ _ => rfl

theorem Dpl.follows_textRecord
    (stored : Stored TextProperties) :
    Follows
      ([.number place.x, .number place.y] ++
        conversionsOf stored.get fun q => [.shown .dplData q.text])
      (fun _ => True) (Dpl.textRecord scale place stored) :=
  (follows_positionOf scale place.x).bind
    (d := .number place.y :: _) fun _ _ =>
      (follows_positionOf scale place.y).bind fun _ _ =>
        follows_part stored.get_missing fun q _ =>
          (follows_shown .dplData q.text).map fun _ _ => trivial

theorem Dpl.follows_barcodeRecord?
    (stored : Stored BarcodeProperties) :
    Follows
      (conversionsOf stored.get fun q =>
        if Symbology.ofValue? q.symbology = none then []
        else
          [.number place.x, .number place.y, .number place.height,
            .shown .dplData q.data])
      (fun record? => record?.toList.length =
        if (Content.barcode stored).IsBlank then 0 else 1)
      (Dpl.barcodeRecord? scale place stored) :=
  follows_barcode stored fun q _ =>
    (follows_positionOf scale place.x).bind fun _ _ =>
      (follows_positionOf scale place.y).bind fun _ _ =>
        (follows_positionOf scale place.height).bind fun _ _ =>
          (follows_shown .dplData q.data).map fun _ _ => rfl

end Encoders

------------------------------------------------------------
-- Blocks
------------------------------------------------------------

namespace Printer

variable {p : Printer}
variable {e : Element}

/- A language has one line for what it prints, if not rounded. -/
theorem lineCount_of_plain
    {place : Placement}
    {content : Content}
    (hPlain : content.isRounded = false)
    (hKnown : p.lacks content = false) :
    p.lineCount ⟨place, content⟩ =
      if content.IsBlank then 0 else 1 := by
  rw [lineCount, hPlain, hKnown]
  simp

theorem lineCount_of_lacks
    (hLacks : p.lacks e.content = true) :
    p.lineCount e = 0 :=
  if_pos (.inr hLacks)

end Printer

/- The fields of an element follow its conversions. -/
theorem Zpl.follows_fields
    [Machine]
    (o : ZplOptions)
    (e : Element) :
    Follows (Zpl.conversions e)
      (fun fields =>
        fields.length = (Printer.mk (.zpl o)).lineCount e)
      (Zpl.fields o e) := by
  rcases e with ⟨place, content⟩
  cases content with
  | text stored =>
      exact (Zpl.follows_textField stored).map fun _ _ => rfl
  | line stored =>
      exact (Zpl.follows_lineField stored).map fun _ _ => rfl
  | box stored =>
      refine (Zpl.follows_boxFields stored).imp
        fun fields hCount => ?_
      rw [hCount, Printer.lineCount]
      simp [Content.IsBlank, Printer.lacks, Printer.protocol,
        PrinterOptions.protocol]
  | circle stored =>
      exact (Zpl.follows_circleField stored).map fun _ _ => rfl
  | barcode stored =>
      exact (Zpl.follows_barcodeField? stored).map
        fun _ hCount => hCount.trans
          (Printer.lineCount_of_plain rfl rfl).symm
  | image stored =>
      exact (Zpl.follows_imageField? stored).map
        fun _ hCount => hCount.trans
          (Printer.lineCount_of_plain rfl rfl).symm
  | unknown elementType properties => exact follows_ok rfl
  | bare => exact follows_ok rfl

/- So do the records of EPL. -/
theorem Epl.follows_records
    [Machine]
    (o : EplOptions)
    (e : Element) :
    Follows (Epl.conversions e)
      (fun records =>
        records.length = (Printer.mk (.epl o)).lineCount e)
      (Epl.records o e) := by
  rcases e with ⟨place, content⟩
  cases content with
  | text stored =>
      exact (Epl.follows_textRecord stored).map fun _ _ => rfl
  | line stored =>
      exact (Epl.follows_lineRecord stored).map fun _ _ => rfl
  | box stored =>
      refine (Epl.follows_boxRecord stored).map fun _ _ => ?_
      rw [Printer.lineCount]
      simp [Content.IsBlank, Printer.lacks, Printer.protocol,
        PrinterOptions.protocol]
  | circle stored => exact follows_ok rfl
  | barcode stored =>
      exact (Epl.follows_barcodeRecord? stored).map
        fun _ hCount => hCount.trans
          (Printer.lineCount_of_plain rfl rfl).symm
  | image stored =>
      exact (Epl.follows_imageRecord? stored).map
        fun _ hCount => hCount.trans
          (Printer.lineCount_of_plain rfl rfl).symm
  | unknown elementType properties => exact follows_ok rfl
  | bare => exact follows_ok rfl

/- And those of DPL. -/
theorem Dpl.follows_records
    [Machine]
    (o : DplOptions)
    (e : Element) :
    Follows (Dpl.conversions e)
      (fun records =>
        records.length = (Printer.mk (.dpl o)).lineCount e)
      (Dpl.records o e) := by
  rcases e with ⟨place, content⟩
  cases content with
  | text stored =>
      exact (Dpl.follows_textRecord stored).map fun _ _ => rfl
  | barcode stored =>
      exact (Dpl.follows_barcodeRecord? stored).map
        fun _ hCount => hCount.trans
          (Printer.lineCount_of_plain rfl rfl).symm
  | unknown elementType properties => exact follows_ok rfl
  | bare => exact follows_ok rfl
  | _ => exact follows_ok (Printer.lineCount_of_lacks rfl).symm

namespace Printer

/- The block of an element follows its conversions. -/
theorem follows_block
    [Machine]
    (p : Printer)
    (e : Element) :
    Follows (p.conversions e)
      (fun lines => lines.length = p.lineCount e)
      (p.block e) := by
  rcases p with ⟨options⟩
  cases options with
  | zpl o =>
      exact (Zpl.follows_fields o e).map
        fun _ hCount => (List.length_map _).trans hCount
  | epl o =>
      exact (Epl.follows_records o e).map
        fun _ hCount => (List.length_map _).trans hCount
  | dpl o =>
      exact (Dpl.follows_records o e).map
        fun _ hCount => (List.length_map _).trans hCount

end Printer

------------------------------------------------------------
-- The Guard
------------------------------------------------------------

namespace Printer

end Printer

end LabelPress
