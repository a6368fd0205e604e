/-! Trees of files, links and directories, and places in them. A place is the list of
names that lead to it from the root, with no link followed on the way.

Names, and what links hold, are texts: a tree has no entry whose name is not valid Unicode.
Every directory can be listed, and files are the only nodes that may be closed to reading. -/
namespace AttributePins

inductive Node where
  /-- A file with its content, unless reading it is not permitted. -/
  | file (content : Option ByteArray)
  /-- A symbolic link with the text it holds. -/
  | link (target : String)
  | dir (entries : List (String × Node))

namespace Node

def get? : Node → List String → Option Node
  | node, [] => some node
  | .dir entries, name :: rest =>
    match entries.lookup name with
    | some child => child.get? rest
    | none => none
  | _, _ :: _ => none

/-- Change the node at a place, if there is one. -/
def modify (change : Node → Node) : List String → Node → Node
  | [], node => change node
  | name :: rest, .dir entries =>
    .dir (entries.map fun entry =>
      if entry.1 = name then (entry.1, modify change rest entry.2) else entry)
  | _ :: _, node => node

/-- Put an entry at its place among entries in the order of their names, instead of
any entry of its name. -/
def insertEntry (name : String) (node : Node) : List (String × Node) → List (String × Node)
  | [] => [(name, node)]
  | entry :: rest =>
    if name < entry.1 then (name, node) :: entry :: rest
    else if name = entry.1 then (name, node) :: rest
    else entry :: insertEntry name node rest

def put (name : String) (node : Node) : Node → Node
  | .dir entries => .dir (insertEntry name node entries)
  | other => other

def remove (name : String) : Node → Node
  | .dir entries => .dir (entries.filter fun entry => entry.1 ≠ name)
  | other => other

/-- Put a node at a place. Directories on the way are made. -/
def graft (node : Node) : List String → Node → Node
  | [], _ => node
  | name :: rest, .dir entries =>
    .dir (insertEntry name (graft node rest ((entries.lookup name).getD (.dir []))) entries)
  | name :: rest, _ => .dir [(name, graft node rest (.dir []))]

def isDir : Node → Bool
  | .dir _ => true
  | _ => false

def isFile : Node → Bool
  | .file _ => true
  | _ => false

end Node
end AttributePins
