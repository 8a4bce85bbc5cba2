import S3Disk.Repository

/-! Slash-separated paths as the packages `path` and `strings` treat them, and the
check that a symbolic link stays below the snapshot root. -/

namespace S3Disk

def slash : UInt8 := 47

def trimSlashes (text : Bytes) : Bytes :=
  ((text.dropWhile (· == slash)).reverse.dropWhile (· == slash)).reverse

def dot : Bytes := [46]

def dotDot : Bytes := [46, 46]

def splitSlash : Bytes → List Bytes
  | [] => [[]]
  | byte :: rest =>
      if byte = slash then [] :: splitSlash rest
      else match splitSlash rest with
        | [] => [[byte]]
        | first :: others => (byte :: first) :: others

def joinSlash : List Bytes → Bytes
  | [] => []
  | [last] => last
  | first :: rest => first ++ slash :: joinSlash rest

def cleanStep (rooted : Bool) (kept : List Bytes) (component : Bytes) : List Bytes :=
  if component = [] ∨ component = dot then kept
  else if component = dotDot then
    match kept with
    | [] => if rooted then [] else [dotDot]
    | top :: rest => if top = dotDot then dotDot :: kept else rest
  else component :: kept

def pathIsAbs (path : Bytes) : Bool := path.head? == some slash

def pathClean (path : Bytes) : Bytes :=
  let rooted := pathIsAbs path
  let cleaned := joinSlash ((splitSlash path).foldl (cleanStep rooted) []).reverse
  if rooted then slash :: cleaned else if cleaned = [] then dot else cleaned

def pathJoin (directory name : Bytes) : Bytes :=
  if directory = [] ∧ name = [] then []
  else if directory = [] then pathClean name
  else if name = [] then pathClean directory
  else pathClean (directory ++ slash :: name)

def pathDir (path : Bytes) : Bytes :=
  pathClean (path.reverse.dropWhile (· ≠ slash)).reverse

def escapes (path : Bytes) : Bool := path == dotDot || (dotDot ++ [slash]).isPrefixOf path

def validateSafeSymlink (linkPath target : Bytes) : Except Err Unit :=
  if target = [] ∨ validUTF8 target = false ∨ 0 ∈ target then
    .error (Sentinel.unsafeSymlink.tagged ["empty or invalid target"])
  else if 92 ∈ target ∨ pathIsAbs target ∨ [slash, slash].isPrefixOf target then
    .error Sentinel.unsafeSymlink.error
  else if 58 ∈ target.takeWhile (· ≠ slash) then .error Sentinel.unsafeSymlink.error
  else if escapes (pathClean (pathJoin (pathDir linkPath) target)) then
    .error Sentinel.unsafeSymlink.error
  else .ok ()

end S3Disk
