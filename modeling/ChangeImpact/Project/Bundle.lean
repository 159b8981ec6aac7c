import ChangeImpact.Json.Reader
import ChangeImpact.Project.Workspace

/-!
Workspaces as documents: a list of files, directories and links, each with its path, and with what a grammar
finds in it.
-/

set_option autoImplicit false

namespace ChangeImpact.Bundle

open ChangeImpact.Json (Value)
open ChangeImpact.Syntax (Outline Row)

def natural : Value → Nat
  | .int value => value.toNat
  | _ => 0

def row? : Value → Option Row
  | .list [depth, .str kind, named, field, start, stop] =>
      some
        { depth := natural depth
          kind
          isNamed := natural named == 1
          field := match field with | .str name => some name | _ => none
          start := natural start
          stop := natural stop }
  | _ => none

def outline (tree : Value) : Outline :=
  { hasError := ((tree.get? "error").getD .null).isTruthy
    rows :=
      match tree.get? "nodes" with
      | some (.list rows) => rows.filterMap row?
      | _ => [] }

def octetsOfHex : List Char → ByteArray → ByteArray
  | high :: low :: rest, octets =>
      let value := (Text.hexValue? high).getD 0 * 16 + (Text.hexValue? low).getD 0
      octetsOfHex rest (octets.push (UInt8.ofNat value))
  | _, octets => octets

def filler (size : Nat) : ByteArray := ByteArray.mk (Array.replicate size 35)

/-- An entry as a document: a text, octets or a size make a file, a target makes a link, and anything
else is a directory. -/
def entry (item : Value) : Entry :=
  let tree := (item.get? "tree").map outline
  match item.get? "text", item.get? "hex", item.get? "size", item.get? "link" with
  | some (.str content), _, _, _ => .file content.toUTF8 tree
  | _, some (.str digits), _, _ => .file (octetsOfHex digits.toList ByteArray.empty) tree
  | _, _, some size, _ => .file (filler (natural size)) tree
  | _, _, _, some (.str target) => .link target tree
  | _, _, _, _ => .directory []

def pathOf (item : Value) : String :=
  match item.get? "path" with
  | some (.str path) => path
  | _ => ""

def put (folder : String) (items : List Value) (workspace : Workspace) : Workspace :=
  items.foldl (fun workspace item => workspace.put (Path.join folder (pathOf item)) (entry item)) workspace

end ChangeImpact.Bundle
