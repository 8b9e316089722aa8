import GridMachine.Machine.Event
import GridMachine.Text.Blank

/-!
Headers of event columns: the name of an event, which may be followed by the roles that may trigger
it, as in `Approve[manager, auditor]`.
-/

namespace GridMachine

/-- What is wrong with a header whose brackets are both there. -/
inductive HeaderFlaw where
  | emptyName
  | textAfterRoles
  | nestedRoles
  | emptyRole
deriving DecidableEq

inductive HeaderError where
  | missingOpeningBrace (header : String)
  | missingClosingBrace (header : String)
  | emptyRoleList (header : String)
  | malformed (header : String) (flaw : HeaderFlaw)
deriving DecidableEq

def HeaderFlaw.message : HeaderFlaw → String
  | .emptyName => "event name is empty"
  | .textAfterRoles => "unexpected text after the role list"
  | .nestedRoles => "role lists cannot be nested"
  | .emptyRole => "role names cannot be empty"

def HeaderError.message : HeaderError → String
  | .missingOpeningBrace header =>
      "Event '" ++ header ++ "' appears to be invalid as it is missing an opening brace for the " ++
        "authorisation definition"
  | .missingClosingBrace header =>
      "Event '" ++ header ++ "' appears to be invalid as it is missing a closing brace for the " ++
        "authorisation definition"
  | .emptyRoleList header =>
      "Event '" ++ header ++ "' appears to be invalid as its authorisation definition has no roles"
  | .malformed header flaw => "Event '" ++ header ++ "' appears to be invalid: " ++ flaw.message

namespace Header

/-- The roles between the brackets. -/
def parseRoles (header : String) (content : List Char) : Except HeaderError (List String) :=
  if content.contains '[' then .error (.malformed header .nestedRoles)
  else if (Text.trim content).isEmpty then .error (.emptyRoleList header)
  else
    let roles := (Text.splitOn ',' content).map Text.trim
    if roles.any List.isEmpty then .error (.malformed header .emptyRole)
    else .ok (roles.map String.ofList)

/-- The event a header names. Of brackets in the wrong order the opening one is missing. -/
def parse (text : String) : Except HeaderError Event :=
  let cs := Text.trim text.toList
  let header := String.ofList cs
  match Text.splitFirst? '[' cs, Text.splitFirst? ']' cs with
  | none, none =>
      if cs.isEmpty then .error (.malformed header .emptyName) else .ok (.unrestricted header)
  | none, some _ => .error (.missingOpeningBrace header)
  | some _, none => .error (.missingClosingBrace header)
  | some (name, afterOpening), some (beforeClosing, afterClosing) =>
      if beforeClosing.length < name.length then .error (.missingOpeningBrace header)
      else if !afterClosing.isEmpty then .error (.malformed header .textAfterRoles)
      else
        let name := Text.trim name
        if name.isEmpty then .error (.malformed header .emptyName)
        else
          match parseRoles header (afterOpening.dropLast) with
          | .error error => .error error
          | .ok roles => .ok (.restricted (String.ofList name) roles)

/-- The name of the event of a header, whatever its roles. -/
def eventName (text : String) : String :=
  let cs := Text.trim text.toList
  match Text.splitFirst? '[' cs with
  | some (name, _) => .ofList (Text.trim name)
  | none => .ofList cs

end Header

end GridMachine
