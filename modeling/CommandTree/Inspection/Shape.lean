
namespace CommandTree.Inspection

/-- A structure with its named parts; an open one has parts that are not shown. -/
def structureText (name : String) (isOpen : Bool) (parts : List (String × String)) : String :=
  let shown := parts.map (fun (part, text) => part ++ ": " ++ text) ++ (if isOpen then [".."] else [])
  name ++ " \x7b " ++ ", ".intercalate shown ++ " \x7d"

def listText (texts : List String) : String :=
  "[" ++ ", ".intercalate texts ++ "]"

def optionText : Option String → String
  | some text => "Some(" ++ text ++ ")"
  | none => "None"

end CommandTree.Inspection
