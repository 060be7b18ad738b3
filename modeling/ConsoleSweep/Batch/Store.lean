-- Documents are read from and written back to a store. A store may fail to read a document
-- (see the errors of the system) or refuse an edit. A dry run wraps a store and accepts every
-- edit without making it. A tree is a store: a document is the UTF-8 text of the file its path
-- leads to, links followed, and an edit replaces that file's bytes.
import ConsoleSweep.Tree.Resolve
namespace ConsoleSweep

/-- Why a document could not be swept. -/
inductive DocError where
  /-- It could not be read. -/
  | read (e : IoError)
  /-- It could not be saved. -/
  | write (e : IoError)
  /-- Its bytes are not UTF-8. -/
  | encoding (f : Text.Utf8Fault)
  /-- Its path does not end in `.sol`. -/
  | notSolidity (path : Bytes)
  /-- The store refused the edit. -/
  | rejected (reason : String)
deriving Repr, Inhabited

/-- What is said about a document error. -/
def DocError.message : DocError → String
  | .read e => "cannot read file: " ++ e.message
  | .write e => "cannot save file: " ++ e.message
  | .encoding f => "invalid UTF-8 encoding: " ++ f.message
  | .notSolidity p => "'" ++ Path.display p ++ "' is not a Solidity (.sol) file"
  | .rejected r => r

/-- How many causes stand below a document error, each the cause of the one above it. -/
def DocError.causes : DocError → Nat
  | .read _ => 1
  | .write _ => 1
  | .encoding _ => 1
  | _ => 0

/-- A place documents are read from and written to. -/
class DocumentStore (σ : Type) where
  /-- The text of a document. -/
  read : σ → Bytes → Except DocError String
  /-- The store with a document's text replaced. -/
  apply : σ → Bytes → String → Except DocError σ

/-- Reads bytes as a document's text. -/
def textOfBytes (bs : Bytes) : Except DocError String :=
  match Text.decodeUtf8 bs with
  | .ok s => .ok s
  | .error f => .error (.encoding f)

/-- A store that reads through to another one and accepts every edit without making it. -/
structure DryRun (σ : Type) where
  inner : σ

instance {σ : Type} [DocumentStore σ] : DocumentStore (DryRun σ) where
  read s p := DocumentStore.read s.inner p
  apply s _ _ := .ok s

/-- The tree as a store. -/
instance : DocumentStore Tree where
  read t p :=
    match t.readFile p with
    | .ok bs => textOfBytes bs
    | .error e => .error (.read e)
  apply t p text :=
    match t.writeFile p (Text.utf8Bytes text) with
    | .ok t' => .ok t'
    | .error e => .error (.write e)

end ConsoleSweep
