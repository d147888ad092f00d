import ClipSplice.Error

/-!
# Probing files

The encoding parameters of files in a `FileTree`, and the check that several files agree on them.
-/

namespace ClipSplice

namespace AudioParams

/-- The parameters of the file that a path names. -/
def ofFile (tree : FileTree) (path : FilePath) : Except Error AudioParams :=
  match tree.read path with
  | .error fault => .error (.media path (.io fault))
  | .ok file =>
    match ofBytes? file with
    | some params => .ok params
    | none => .error (.media path .noFrameHeader)

end AudioParams

/-- Compare files with parameters that are expected of each. -/
def agreeWith (tree : FileTree) (expected : AudioParams) : List FilePath → Except Error Unit
  | [] => .ok ()
  | path :: paths => do
    let actual ← AudioParams.ofFile tree path
    match expected.mismatch? actual with
    | some m => .error (.mismatch m)
    | none => agreeWith tree expected paths

/-- Check that all files agree with the first one. No files agree. -/
def checkAgreement (tree : FileTree) : List FilePath → Except Error Unit
  | [] => .ok ()
  | path :: paths => do
    let expected ← AudioParams.ofFile tree path
    agreeWith tree expected paths

end ClipSplice
