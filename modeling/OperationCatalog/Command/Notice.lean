import OperationCatalog.Command.Style
import OperationCatalog.Text.Emoji
import OperationCatalog.Text.Expression
import OperationCatalog.Text.Lines

/-!
# Notices

A notice is a text that is shown on a screen of eighty columns, where it is wrapped. It may have
**marks**: names in brackets, which stand for a style and take no room. A name between brackets is a
mark if it starts with a lower-case letter or one of three signs; a backslash before the bracket
makes it text. What stands between two marks may name emoji.

A mark that starts with a slash ends the style of an earlier one, which may be written in another
way (`OperationCatalog.Command.Style.canonical`). What follows an equals sign in a mark is no part
of its name; a mark that starts with an at sign has a call there, with constants as arguments. A
notice with an end that has no beginning, or with a call that is none, cannot be shown
(`OperationCatalog.Command.unmarked`).
-/

namespace OperationCatalog.Command

/-- The columns of the screen. -/
def screenWidth : Nat := 80

/-- Why a notice cannot be shown. -/
inductive NoticeFault where
  /-- A mark ends what has not begun, or ends a call that is none. -/
  | badMark
  /-- A color lacks a part. -/
  | incompleteColor
  deriving DecidableEq, Repr

/-! ### Marks -/

/-- A mark. -/
structure Mark where
  /-- Its name. -/
  name : List Char
  /-- What follows the equals sign, if it has one. -/
  call : Option (List Char)

/-- The mark with a text between its brackets. -/
def Mark.ofText (text : List Char) : Mark :=
  let name := text.takeWhile (· != '=')
  ⟨name, if name.length < text.length then some (text.drop (name.length + 1)) else none⟩

/-- Whether a character can be the first of a mark. -/
def startsMark (c : Char) : Bool := c.isLower || c == '#' || c == '/' || c == '@'

/-- The text between the brackets of the mark that stands after an opening one, and what follows the
mark. -/
def markAt : List Char → Option (List Char × List Char)
  | c :: rest =>
    let more := rest.takeWhile fun d => d != '[' && d != ']'
    match startsMark c, rest.drop more.length with
    | true, ']' :: after => some (c :: more, after)
    | _, _ => none
  | [] => none

/-- A text without the blanks around it. -/
def trimmed (s : List Char) : List Char := Text.withoutBlanks (s.dropWhile Text.separatesWords)

/-- The arguments of a call: what stands in brackets after a name, which may be missing; and the
whole of what is no call. -/
def callArguments (call : List Char) : List Char :=
  let call := trimmed call
  let isNameChar (c : Char) := Text.Expression.isWordChar c || c == '.'
  match call.drop (call.takeWhile isNameChar).length with
  | [] => ['(', ')']
  | '(' :: rest =>
    if rest.getLast? == some ')' && !rest.contains '\n' then '(' :: rest else call
  | _ => call

/-- Whether a mark may end: its call, if it has one, has constants as arguments. -/
def Mark.mayEnd (mark : Mark) : Bool :=
  match mark.name, mark.call with
  | '@' :: _, some call => call.isEmpty || Text.Expression.isConstant (callArguments call)
  | _, _ => true

/-- The name of a style. -/
def styleName (text : List Char) : Except NoticeFault (List Char) :=
  (Style.canonical text).mapError fun _ => .incompleteColor

/-- The marks that have begun without the one that ends, which is the last one of its name. -/
def endMark (name : List Char) (begun : List Mark) : Except NoticeFault (List Mark) :=
  match begun.find? fun mark => name.isEmpty || mark.name == name with
  | none => .error .badMark
  | some mark =>
    if mark.mayEnd then .ok (begun.eraseP fun mark => name.isEmpty || mark.name == name)
    else .error .badMark

/-- **What a mark does** to the marks that have begun, the last one first: it begins one, or it ends
one or – without a name – the last one. -/
def applyMark (mark : Mark) (begun : List Mark) : Except NoticeFault (List Mark) := do
  match mark.name with
  | '/' :: name =>
    let name := trimmed name
    if name.isEmpty then endMark [] begun
    else endMark (← styleName name) begun
  | name => return { mark with name := ← styleName name } :: begun

/-- What of a text is shown: its emoji, and not what controls a printer. -/
def shownText (text : List Char) : List Char :=
  (Text.Emoji.replaced text).filter fun c => !([7, 8, 11, 12, 13].contains c.toNat)

/-- The text of a notice of at most `bound` characters, from a text on that no mark cuts; that comes
last character first. -/
def unmarkedWithin : (bound : Nat) → (text : List Char) → List Mark → List Char →
    Except NoticeFault (List Char)
  | 0, text, _, _ => .ok (shownText text.reverse)
  | _, text, _, [] => .ok (shownText text.reverse)
  | bound + 1, text, begun, c :: rest =>
    let slashes := (c :: rest).takeWhile (· == '\\')
    match (c :: rest).drop slashes.length with
    | '[' :: inner =>
      match markAt inner with
      | some (mark, after) => do
        let half := List.replicate (slashes.length / 2) '\\'
        let before := shownText text.reverse ++ half
        if slashes.length % 2 == 1 then
          let more ← unmarkedWithin bound [] begun after
          return before ++ shownText ('[' :: mark ++ [']']) ++ more
        else
          let begun ← applyMark (.ofText mark) begun
          let more ← unmarkedWithin bound [] begun after
          return before ++ more
      | none => unmarkedWithin bound ('[' :: slashes.dropLast ++ text) begun inner
    | _ => unmarkedWithin bound (c :: text) begun rest

/-- **The text of a notice without its marks.** -/
def unmarked (notice : List Char) : Except NoticeFault (List Char) :=
  unmarkedWithin notice.length [] [] notice

/-! ### Lines -/

/-- The lines of a notice. -/
def noticeText (shown : List Char) : String :=
  Text.unlines ((Text.wrapped screenWidth shown).map String.ofList)

/-- **A notice as it is shown.** -/
def notice (text : String) : Except NoticeFault String := (unmarked text.toList).map noticeText

/-- A notice that something was done. -/
def successText (text : String) : String := "✓ " ++ text

end OperationCatalog.Command
