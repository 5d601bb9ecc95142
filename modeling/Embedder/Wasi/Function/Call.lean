import Embedder.Execution.Run
import Embedder.Wasi.Function
import Embedder.Wasi.Function.Status
import Embedder.Wasi.Function.Waiting

/-!
Calling a function of the system interface.

* `Function.perform`: what each function does;
* `Function.call`: the results for the caller, or why there are none.
-/

namespace Embedder.Wasi

namespace Calling

/-! ### Arguments and variables -/

/-- A text as it is written: with a byte of zero behind it. -/
def terminated (pieces : List (List UInt8)) : List (List UInt8) := pieces ++ [[0]]

/-- Writes texts and their addresses. -/
def writeTexts (addresses start : Nat) : List (List (List UInt8)) → Calling Unit
  | [] => pure ()
  | pieces :: rest => do
    writeWord 4 addresses start
    writeTexts (addresses + 4) (← writePieces start (terminated pieces)) rest

/-- Writes how many texts there are and the bytes they take. -/
def writeSizes (count size : Nat) (texts : List (List (List UInt8))) : Calling Unit := do
  writeWord 4 count texts.length
  writeWord 4 size (texts.flatMap terminated).flatten.length

def utf8 (s : String) : List UInt8 := s.toUTF8.toList

def argumentTexts (c : Context) : List (List (List UInt8)) := c.arguments.map fun a => [utf8 a]

def variableTexts (c : Context) : List (List (List UInt8)) :=
  c.vars.map fun (k, v) => [utf8 k, utf8 "=", utf8 v]

/-! ### Sockets -/

/-- No descriptor is a socket. -/
def noSocket (fd : Nat) : Calling Unit := do
  let _ ← descriptor fd
  fail .notSocket

/-! ### The end -/

/-- Signals have numbers up to 30, and none can be raised. -/
def raise (signal : Nat) : Calling Unit :=
  if 30 < signal % 256 then fail .invalid else fail .notSupported

/-- The statuses that a program can exit with are below this one. -/
def statusLimit : Nat := 126

def exit (status : Nat) : Calling Unit :=
  if status < statusLimit then throw (.exit status)
  else trap ("exit with invalid exit status outside of [0.." ++ toString statusLimit ++ ")")

end Calling

namespace Function

open Calling in
/-- What a function does with its arguments. Those of a call have the number and the types that the
function takes. -/
def perform (v : Version) (f : Function) (arguments : List Nat) : Calling Unit := do
  match f, arguments with
  | .argsGet, [addresses, start] => writeTexts addresses start (argumentTexts (← context))
  | .argsSizesGet, [count, size] => writeSizes count size (argumentTexts (← context))
  | .environGet, [addresses, start] => writeTexts addresses start (variableTexts (← context))
  | .environSizesGet, [count, size] => writeSizes count size (variableTexts (← context))
  | .clockResGet, [clock, result] => clockResolution clock result
  | .clockTimeGet, [clock, _, result] => clockTime clock result
  | .fdAdvise, [fd, _, _, advice] => advise fd advice
  | .fdAllocate, [fd, _, _] => allocate fd
  | .fdClose, [fd] => close fd
  | .fdDatasync, [fd] => synchronise fd
  | .fdFdstatGet, [fd, result] => descriptorStatus v fd result
  | .fdFdstatSetFlags, [fd, flags] => setFlags fd flags
  | .fdFdstatSetRights, [fd, rights, inheriting] => setRights v fd rights inheriting
  | .fdFilestatGet, [fd, result] => fileStatus v fd result
  | .fdFilestatSetSize, [fd, size] => setSize fd size
  | .fdFilestatSetTimes, [fd, _, _, flags] => setTimes fd flags
  | .fdPread, [fd, list, count, position, result] => readAt fd list count position result
  | .fdPrestatGet, [fd, result] => describeAlias fd result
  | .fdPrestatDirName, [fd, start, room] => directoryAlias fd start room
  | .fdPwrite, [fd, list, count, position, result] => writeAt fd list count position result
  | .fdRead, [fd, list, count, result] => Calling.read fd list count result
  | .fdReaddir, [fd, start, room, cookie, result] => readDirectory fd start room cookie result
  | .fdRenumber, [fd, newFd] => renumber fd newFd
  | .fdSeek, [fd, offset, whence, result] => seek v fd offset whence result
  | .fdSync, [fd] => synchronise fd
  | .fdTell, [fd, result] => tell fd result
  | .fdWrite, [fd, list, count, result] => Calling.write fd list count result
  | .pathCreateDirectory, [fd, start, length] => createDirectory fd start length
  | .pathFilestatGet, [fd, lookup, start, length, result] =>
    pathStatus v fd lookup start length result
  | .pathFilestatSetTimes, [fd, lookup, start, length, _, _, flags] =>
    setPathTimes fd lookup start length flags
  | .pathLink, [fd, lookup, start, length, newFd, newStart, newLength] =>
    link fd lookup start length newFd newStart newLength
  | .pathOpen, [fd, lookup, start, length, oflags, rights, inheriting, fdflags, result] =>
    openPath v fd lookup start length oflags rights inheriting fdflags result
  | .pathReadlink, [fd, start, length, target, room, result] =>
    readLink fd start length target room result
  | .pathRemoveDirectory, [fd, start, length] => removeDirectory fd start length
  | .pathRename, [fd, start, length, newFd, newStart, newLength] =>
    rename fd start length newFd newStart newLength
  | .pathSymlink, [target, targetLength, fd, start, length] =>
    symlink target targetLength fd start length
  | .pathUnlinkFile, [fd, start, length] => unlinkPath fd start length
  | .pollOneoff, [wishes, events, count, result] => poll v wishes events count result
  | .procExit, [status] => Calling.exit status
  | .procRaise, [signal] => raise signal
  | .randomGet, [start, length] => randomBytes start length
  | .schedYield, _ => pure ()
  | .sockAccept, [fd, flags, _] => if 32 ≤ flags % 65536 then fail .invalid else noSocket fd
  | .sockRecv, [fd, _, _, flags, _, _] => if 4 ≤ flags % 65536 then fail .invalid else noSocket fd
  | .sockSend, [fd, _, _, _, _] => noSocket fd
  | .sockShutdown, [fd, how] => if 4 ≤ how % 256 then fail .invalid else noSocket fd
  | _, _ => fail .invalid

/-- The number that a cell holds, without a sign. -/
def number : Cell → Nat
  | .value (.i32 n) => n.toNat
  | .value (.i64 n) => n.toNat
  | _ => 0

/-- The results of a call and the state it leaves. -/
def call (v : Version) (f : Function) (arguments : List Cell) (s : CallState) :
    Except Execution.Stop (List Cell) × CallState :=
  match (f.perform v (arguments.map number)).run.run s with
  | (.ok (), s) => (.ok [.i32 0], s)
  | (.error (.errno e), s) => (.ok [.i32 (.ofNat e.code)], s)
  | (.error (.trap message), s) => (.error (.engine message), s)
  | (.error (.exit code), s) => (.error (.exited code), s)

/-- What a call without a memory to work on ends with. -/
def noMemory : Execution.Stop := .engine "missing required memory export"

end Function

end Embedder.Wasi
