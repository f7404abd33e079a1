import OperationCatalog.Text.Case
import OperationCatalog.Text.Emoji.Flag
import OperationCatalog.Text.Emoji.Names
import OperationCatalog.Text.Wrapped

/-!
# Emoji by name

A name between two colons stands for an emoji (`OperationCatalog.Text.Emoji.replaced`). It may say
how the emoji is shown, as a picture or as text; a name that no emoji has stays as it is, with its
colons, and so its second colon begins no further name.
-/

namespace OperationCatalog.Text.Emoji

/-- The tones of skin, by what stands after a name. -/
def tones : List (String × Char) :=
  [("_light_skin_tone", '🏻'), ("_medium-light_skin_tone", '🏼'), ("_medium_skin_tone", '🏽'),
    ("_medium-dark_skin_tone", '🏾'), ("_dark_skin_tone", '🏿')]

/-- An emoji in a tone, which follows the first character in the place of a selector. -/
def inTone (tone : Char) : List Char → List Char
  | [] => [tone]
  | c :: rest => c :: tone :: (if rest.head? == some selector then rest.tail else rest)

/-- The emoji with a name that ends with a tone. -/
def toned? (name : String) : Option (List Char) :=
  tones.findSome? fun (ending, tone) =>
    if name.endsWith ending then
      (toned.lookup (name.dropEnd ending.length).toString).map fun emoji => inTone tone emoji.toList
    else none

/-- **The emoji with a name.** -/
def named? (name : String) : Option (List Char) :=
  (((toned ++ untoned).lookup name).map String.toList).orElse fun _ =>
    (flag? name).orElse fun _ => toned? name

/-! ### Codes -/

/-- What a name may end with to say how the emoji is shown. -/
def variants : List (String × Char) := [("-emoji", selector), ("-text", '\ufe0e')]

/-- A name without what it says about how the emoji is shown, and the character for that. -/
def splitVariant (name : String) : String × List Char :=
  ((variants.find? fun (ending, _) => name.endsWith ending).map fun (ending, mark) =>
    ((name.dropEnd ending.length).toString, [mark])).getD (name, [])

/-- The emoji that the text between two colons stands for, in whatever case it is written. -/
def ofCode? (code : List Char) : Option (List Char) :=
  let (name, mark) := splitVariant (String.ofList code)
  (named? (String.ofList (lowered name.toList))).map (· ++ mark)

/-- The text up to the next colon, and what follows that, if no blank comes before it. -/
def codeAt (s : List Char) : Option (List Char × List Char) :=
  let code := s.takeWhile fun c => c != ':' && !separatesWords c
  match s.drop code.length with
  | ':' :: after => some (code, after)
  | _ => none

/-- A text of at most `bound` characters with the emoji it names. -/
def replacedWithin : (bound : Nat) → List Char → List Char
  | 0, s => s
  | _, [] => []
  | bound + 1, c :: rest =>
    match if c == ':' then codeAt rest else none with
    | some (code, after) =>
      (ofCode? code).getD (':' :: code ++ [':']) ++ replacedWithin bound after
    | none => c :: replacedWithin bound rest

/-- **A text with the emoji it names.** -/
def replaced (s : List Char) : List Char := replacedWithin s.length s

end OperationCatalog.Text.Emoji
