import Lexical.FileTree
import Lexical.Scanner.Stream
/-! Scanners over whole sources, with what making them tells the log. -/
namespace Lexical

/-- A scanner that was just made. -/
structure Opened where
  scanner : Scanner
  events : List Event

namespace Scanner

def openString (source : String) (file : Option String) : Opened :=
  let s := ofString source file
  ⟨s, [.created s.file s.source.size]⟩

/-- A scanner over what `read` finds at `path`, which it is named for. -/
def openWith (read : String → Except ReadFault String) (path : String) :
    Except SourceError Opened :=
  match read path with
  | .error fault => .error ⟨path, fault⟩
  | .ok source =>
    let opened := openString source (some path)
    .ok { opened with events := .read source.utf8ByteSize path :: opened.events }

def openFile (tree : FileTree) (path : String) : Except SourceError Opened :=
  openWith tree.read path

end Scanner

end Lexical
