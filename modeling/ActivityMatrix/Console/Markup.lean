import ActivityMatrix.Console.Emoji
import ActivityMatrix.Console.Literal
import ActivityMatrix.Console.Style

/-!
# Console markup

Text for a console may hold tags in brackets that set its style. A tag starts with a small letter,
a number sign, a slash or an at sign; a slash closes the style that it names, or the last one that
was opened. An at sign names an action, whose parameters follow an equals sign. Backslashes in front
of a tag count in pairs, each for one backslash, and one that is left over makes the tag plain text.
Here only the plain text matters: what is left when the tags are gone, with emoji for their names.
-/

namespace ActivityMatrix.Console

/-! ## Tags -/

/-- A piece of marked-up text. -/
inductive MarkupPiece where
  | char (c : Char)
  /-- A tag without its brackets, after so many backslashes. -/
  | tag (backslashes : Nat) (body : List Char)
  deriving DecidableEq, Repr, Inhabited

/-- Whether a tag may start with a character. -/
def startsTag (c : Char) : Bool :=
  ('a' ≤ c && c ≤ 'z') || c == '#' || c == '/' || c == '@'

/-- The tag at the start of a text, after its opening bracket, and what follows it. -/
def tagBody? (cs : List Char) : Option (List Char × List Char) :=
  match cs with
  | [] => none
  | c :: rest =>
      if !startsTag c then none
      else
        let inner := rest.takeWhile fun d => d != '[' && d != ']'
        match rest.drop inner.length with
        | ']' :: after => some (c :: inner, after)
        | _ => none

/-- The tag that follows a run of backslashes at the start of a text. -/
def tagHere? (cs : List Char) : Option (Nat × List Char × List Char) :=
  let slashes := cs.takeWhile (· == '\\')
  match cs.drop slashes.length with
  | '[' :: rest => (tagBody? rest).map fun (body, after) => (slashes.length, body, after)
  | _ => none

/-- The pieces of a text. The fuel is the number of characters. -/
def piecesWithin : Nat → List Char → List MarkupPiece
  | 0, _ => []
  | _ + 1, [] => []
  | fuel + 1, c :: rest =>
      match tagHere? (c :: rest) with
      | some (slashes, body, after) => .tag slashes body :: piecesWithin fuel after
      | none =>
          if c == '\\' then
            -- no tag follows the run, so the whole run is text
            let slashes := (c :: rest).takeWhile (· == '\\')
            slashes.map .char ++ piecesWithin fuel ((c :: rest).drop slashes.length)
          else .char c :: piecesWithin fuel rest

/-- The pieces of a text. -/
def pieces (cs : List Char) : List MarkupPiece :=
  piecesWithin cs.length cs

/-! ## Errors -/

/-- Why marked-up text cannot be shown. -/
inductive MarkupError where
  | closesNothing (tag : String)
  | badParameters (parameters : String)
  | emptyPart
  deriving DecidableEq, Repr, Inhabited

/-- What is wrong, in words. -/
def MarkupError.message : MarkupError → String
  | closesNothing tag => s!"The tag [{tag}] closes nothing"
  | badParameters parameters => s!"The parameters {parameters} cannot be read"
  | emptyPart => "A part of a colour is empty"

/-! ## Open tags -/

/-- A tag that sets a style or names an action. -/
structure StyleTag where
  name : String
  /-- What follows an equals sign behind it. -/
  parameters : Option String
  deriving DecidableEq, Repr, Inhabited

namespace StyleTag

/-- Whether the tag names an action. -/
def isAction (tag : StyleTag) : Bool :=
  tag.name.toList.head? == some '@'

/-- The description of the style that the tag sets. -/
def description (tag : StyleTag) : String :=
  match tag.parameters with
  | some parameters => tag.name ++ " " ++ parameters
  | none => tag.name

end StyleTag

/-- The name of a style, an empty part of a colour being an error. -/
def checkedStyleName (text : List Char) : Except MarkupError String :=
  (styleName (String.ofList text)).mapError fun _ => .emptyPart

/-- Checks that the styles of tags can be looked up. -/
def checkStyles (tags : List StyleTag) : Except MarkupError Unit :=
  if tags.any fun tag => Style.read tag.description matches .error .emptyPart then .error .emptyPart
  else .ok ()

/-- Whether a character may stand in the name of a function. -/
def isFunctionChar (c : Char) : Bool :=
  c.isAlphanum || c == '_' || c == '.' || Text.isCased c || Text.isDecimalDigit c

/-- The arguments of a function that is called by parameters: they stand in parentheses behind its
name, or there are none. Nothing if the parameters call no function. -/
def callArguments? (parameters : List Char) : Option (List Char) :=
  let rest := parameters.dropWhile isFunctionChar
  if rest.isEmpty then some ['(', ')']
  else if rest.head? == some '(' && rest.getLast? == some ')' && !rest.contains '\n' then some rest
  else none

/-- Checks the parameters of an action. -/
def checkParameters (parameters : String) : Except MarkupError Unit :=
  let given := Text.trimBlanks parameters.toList
  if parameters.isEmpty || isLiteral ((callArguments? given).getD given) then .ok ()
  else .error (.badParameters parameters)

/-- The tags of a marked-up text that are open, the last one first, and those that were closed. -/
structure TagState where
  opened : List StyleTag := []
  /-- The closed tags that set a style. -/
  closed : List StyleTag := []
  deriving DecidableEq, Repr, Inhabited

namespace TagState

/-- The state after a tag is closed. -/
def close (state : TagState) (tag : StyleTag) : Except MarkupError TagState := do
  let opened := state.opened.erase tag
  if tag.isAction then
    checkParameters (tag.parameters.getD "")
    return { state with opened }
  else return { opened, closed := tag :: state.closed }

/-- The state after a tag in a text. -/
def after (state : TagState) (body : List Char) : Except MarkupError TagState := do
  let name := body.takeWhile (· != '=')
  match name with
  | '/' :: closing =>
      let description := Text.trimBlanks closing
      let style ← checkedStyleName description
      match state.opened.find? fun tag => description.isEmpty || tag.name == style with
      | some tag => state.close tag
      | none => throw (.closesNothing (String.ofList body))
  | _ =>
      let parameters := (body.drop name.length).tail?.map String.ofList
      return { state with opened := ⟨← checkedStyleName name, parameters⟩ :: state.opened }

end TagState

/-! ## Plain text -/

/-- A run of plain text in which a backslash in front of a bracket is left out. -/
def plainRun : List Char → List Char
  | '\\' :: '[' :: rest => '[' :: plainRun rest
  | c :: rest => c :: plainRun rest
  | [] => []

/-- The plain text of pieces, after the plain characters `run`, in reverse, of the run so far. -/
def plainPieces (run : List Char) (state : TagState) :
    List MarkupPiece → Except MarkupError (List Char)
  | [] => do
      checkStyles (state.opened ++ state.closed)
      return withEmoji (plainRun run.reverse)
  | .char c :: rest => plainPieces (c :: run) state rest
  | .tag slashes body :: rest => do
      let shown := withEmoji (plainRun run.reverse) ++ List.replicate (slashes / 2) '\\'
      if slashes % 2 = 1 then
        return shown ++ withEmoji ('[' :: body ++ [']']) ++ (← plainPieces [] state rest)
      else return shown ++ (← plainPieces [] (← state.after body) rest)

/-- The plain text of a marked-up text. -/
def plainText (markup : String) : Except MarkupError (List Char) :=
  plainPieces [] {} (pieces markup.toList)

/-! ## Escaping -/

/-- A piece as it is written so that it is read as text. -/
def escapePiece : MarkupPiece → List Char
  | .char c => [c]
  | .tag slashes body => List.replicate (2 * slashes + 1) '\\' ++ '[' :: body ++ [']']

/-- A text in which every tag is made plain text, and a single backslash at the end a pair. -/
def escape (text : String) : String :=
  let escaped := (pieces text.toList).flatMap escapePiece
  let trailing := (escaped.reverse.takeWhile (· == '\\')).length
  String.ofList (if trailing = 1 then escaped ++ ['\\'] else escaped)

end ActivityMatrix.Console
