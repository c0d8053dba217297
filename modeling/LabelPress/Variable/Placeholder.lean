import LabelPress.Text.Blank

/-
  Placeholders in text.

  A placeholder is two opening braces, the shortest content that
  is not empty and holds no newline, and two closing braces.
  A text is cut into pieces from left to right: placeholders, and
  the single characters between them.

  Key definitions include:
    * `Placeholder`, with `Placeholder.ofContent`
    * `Piece`, with `Piece.text`
    * `pieces`
    * `hasOpening`
    * `placeholders`
-/

namespace LabelPress

------------------------------------------------------------
-- Placeholders
------------------------------------------------------------

/- A placeholder: its content, split into a name and a format. -/
structure Placeholder where
  content : Text
  name : Text
  format : Option Text
  deriving DecidableEq

/-
  The name and the format of a content, split at the first bar.
  A format of blanks alone counts as none.
-/
def splitContent
    (content : Text) :
    Text × Option Text :=
  let name := Text.trim (Text.upTo '|' content)
  let format := Text.trim ((Text.onFrom '|' content).drop 1)
  (name, if format = "" then none else some format)

namespace Placeholder

/- The placeholder of a content. -/
def ofContent
    (content : Text) :
    Placeholder :=
  let (name, format) := splitContent content
  ⟨content, name, format⟩

/- The text of a placeholder. -/
def text
    (p : Placeholder) :
    Text :=
  "\x7b\x7b" ++ p.content ++ "\x7d\x7d"

end Placeholder

------------------------------------------------------------
-- Pieces
------------------------------------------------------------

/- A piece of a text. -/
inductive Piece where
  | literal (c : CodePoint)
  | placeholder (p : Placeholder)
  deriving DecidableEq

/- The text of a piece. -/
def Piece.text :
    Piece → Text
  | literal c => [c]
  | placeholder p => p.text

/-
  The shortest content, not empty and without a newline, that is
  followed by two closing braces.
-/
def content? :
    Text → Option Text
  | [] => none
  | c :: cs =>
      if c = '\n' then none
      else
        match cs with
        | .char '\x7d' :: .char '\x7d' :: _ => some [c]
        | _ => (content? cs).map (c :: ·)

/- The content of a placeholder at the start. -/
def placeholderAt? :
    Text → Option Text
  | .char '\x7b' :: .char '\x7b' :: cs => content? cs
  | _ => none

/-
  Cut a text into pieces.  `skip` counts the characters that the
  last placeholder still covers.
-/
def piecesFrom :
    Nat → Text → List Piece
  | _, [] => []
  | skip + 1, _ :: cs => piecesFrom skip cs
  | 0, c :: cs =>
      match placeholderAt? (c :: cs) with
      | some content =>
          .placeholder (.ofContent content) ::
            piecesFrom (content.length + 3) cs
      | none => .literal c :: piecesFrom 0 cs

/- The pieces of a text. -/
def pieces
    (cs : Text) :
    List Piece :=
  piecesFrom 0 cs

/- Whether a text holds two opening braces side by side. -/
def hasOpening :
    Text → Bool
  | [] => false
  | .char '\x7b' :: .char '\x7b' :: _ => true
  | _ :: cs => hasOpening cs

/- The placeholder in a piece. -/
def Piece.placeholder? :
    Piece → Option Placeholder
  | literal _ => none
  | placeholder p => some p

/- The placeholders of a text in order. -/
def placeholders
    (s : Text) :
    List Placeholder :=
  (pieces s).filterMap Piece.placeholder?

end LabelPress
