import ApiScaffold.Diagnostic.Basic

/-!
Storages: what a run needs of the world around it. Documents are read from a storage, and files are
put into it.
-/

namespace ApiScaffold

structure Storage (m : Type → Type) where
  read : (path : String) → m (Except Cause String)
  /-- Puts a file at its place; missing directories are created, an older file is replaced. -/
  write : (path contents : String) → m (Except Cause Unit)
  /-- Reads a document from an address of the web. -/
  fetch : (address : String) → m (Except Cause String)

end ApiScaffold
