import Embedder.Wasi.Version

/-!
The functions of the system interface by name and type.

* `Function`: the functions that both snapshots know, and `sockAccept` of the newer one;
* `Function.find?`: the function that a snapshot has under a name;
* `Function.type`: what it takes and gives.
-/

namespace Embedder.Wasi

inductive Function where
  | argsGet
  | argsSizesGet
  | environGet
  | environSizesGet
  | clockResGet
  | clockTimeGet
  | fdAdvise
  | fdAllocate
  | fdClose
  | fdDatasync
  | fdFdstatGet
  | fdFdstatSetFlags
  | fdFdstatSetRights
  | fdFilestatGet
  | fdFilestatSetSize
  | fdFilestatSetTimes
  | fdPread
  | fdPrestatGet
  | fdPrestatDirName
  | fdPwrite
  | fdRead
  | fdReaddir
  | fdRenumber
  | fdSeek
  | fdSync
  | fdTell
  | fdWrite
  | pathCreateDirectory
  | pathFilestatGet
  | pathFilestatSetTimes
  | pathLink
  | pathOpen
  | pathReadlink
  | pathRemoveDirectory
  | pathRename
  | pathSymlink
  | pathUnlinkFile
  | pollOneoff
  | procExit
  | procRaise
  | schedYield
  | randomGet
  | sockAccept
  | sockRecv
  | sockSend
  | sockShutdown
  deriving DecidableEq, Inhabited

namespace Function

def all : List Function :=
  [.argsGet, .argsSizesGet, .environGet, .environSizesGet, .clockResGet, .clockTimeGet, .fdAdvise,
    .fdAllocate, .fdClose, .fdDatasync, .fdFdstatGet, .fdFdstatSetFlags, .fdFdstatSetRights,
    .fdFilestatGet, .fdFilestatSetSize, .fdFilestatSetTimes, .fdPread, .fdPrestatGet,
    .fdPrestatDirName, .fdPwrite, .fdRead, .fdReaddir, .fdRenumber, .fdSeek, .fdSync, .fdTell,
    .fdWrite, .pathCreateDirectory, .pathFilestatGet, .pathFilestatSetTimes, .pathLink, .pathOpen,
    .pathReadlink, .pathRemoveDirectory, .pathRename, .pathSymlink, .pathUnlinkFile, .pollOneoff,
    .procExit, .procRaise, .schedYield, .randomGet, .sockAccept, .sockRecv, .sockSend,
    .sockShutdown]

def name : Function → String
  | .argsGet => "args_get"
  | .argsSizesGet => "args_sizes_get"
  | .environGet => "environ_get"
  | .environSizesGet => "environ_sizes_get"
  | .clockResGet => "clock_res_get"
  | .clockTimeGet => "clock_time_get"
  | .fdAdvise => "fd_advise"
  | .fdAllocate => "fd_allocate"
  | .fdClose => "fd_close"
  | .fdDatasync => "fd_datasync"
  | .fdFdstatGet => "fd_fdstat_get"
  | .fdFdstatSetFlags => "fd_fdstat_set_flags"
  | .fdFdstatSetRights => "fd_fdstat_set_rights"
  | .fdFilestatGet => "fd_filestat_get"
  | .fdFilestatSetSize => "fd_filestat_set_size"
  | .fdFilestatSetTimes => "fd_filestat_set_times"
  | .fdPread => "fd_pread"
  | .fdPrestatGet => "fd_prestat_get"
  | .fdPrestatDirName => "fd_prestat_dir_name"
  | .fdPwrite => "fd_pwrite"
  | .fdRead => "fd_read"
  | .fdReaddir => "fd_readdir"
  | .fdRenumber => "fd_renumber"
  | .fdSeek => "fd_seek"
  | .fdSync => "fd_sync"
  | .fdTell => "fd_tell"
  | .fdWrite => "fd_write"
  | .pathCreateDirectory => "path_create_directory"
  | .pathFilestatGet => "path_filestat_get"
  | .pathFilestatSetTimes => "path_filestat_set_times"
  | .pathLink => "path_link"
  | .pathOpen => "path_open"
  | .pathReadlink => "path_readlink"
  | .pathRemoveDirectory => "path_remove_directory"
  | .pathRename => "path_rename"
  | .pathSymlink => "path_symlink"
  | .pathUnlinkFile => "path_unlink_file"
  | .pollOneoff => "poll_oneoff"
  | .procExit => "proc_exit"
  | .procRaise => "proc_raise"
  | .schedYield => "sched_yield"
  | .randomGet => "random_get"
  | .sockAccept => "sock_accept"
  | .sockRecv => "sock_recv"
  | .sockSend => "sock_send"
  | .sockShutdown => "sock_shutdown"

/-! ### Types -/

/-- A number of parameters of the smaller integer type. -/
def words (n : Nat) : List ValueType := List.replicate n .i32

def params : Function → List ValueType
  | .schedYield => []
  | .fdClose | .fdDatasync | .fdSync | .procExit | .procRaise => words 1
  | .argsGet | .argsSizesGet | .environGet | .environSizesGet | .clockResGet | .fdFdstatGet
  | .fdFdstatSetFlags | .fdFilestatGet | .fdPrestatGet | .fdRenumber | .fdTell | .randomGet
  | .sockShutdown => words 2
  | .fdPrestatDirName | .pathCreateDirectory | .pathRemoveDirectory | .pathUnlinkFile
  | .sockAccept => words 3
  | .fdRead | .fdWrite | .pollOneoff => words 4
  | .pathFilestatGet | .pathSymlink | .sockSend => words 5
  | .pathReadlink | .pathRename | .sockRecv => words 6
  | .pathLink => words 7
  | .clockTimeGet => [.i32, .i64, .i32]
  | .fdAdvise => [.i32, .i64, .i64, .i32]
  | .fdAllocate | .fdFdstatSetRights => [.i32, .i64, .i64]
  | .fdFilestatSetSize => [.i32, .i64]
  | .fdFilestatSetTimes => [.i32, .i64, .i64, .i32]
  | .fdPread | .fdPwrite => [.i32, .i32, .i32, .i64, .i32]
  | .fdReaddir => [.i32, .i32, .i32, .i64, .i32]
  | .fdSeek => [.i32, .i64, .i32, .i32]
  | .pathFilestatSetTimes => [.i32, .i32, .i32, .i32, .i64, .i64, .i32]
  | .pathOpen => [.i32, .i32, .i32, .i32, .i32, .i64, .i64, .i32, .i32]

/-- Every function answers with the number of an error except the one that does not return. -/
def results : Function → List ValueType
  | .procExit => []
  | _ => [.i32]

def type (f : Function) : FunctionType := ⟨f.params, f.results⟩

/-! ### Snapshots -/

/-- The older snapshot takes no connections. -/
def isIn (f : Function) (v : Version) : Bool :=
  match v.resolve, f with
  | .snapshot0, .sockAccept => false
  | _, _ => true

def find? (v : Version) (name : String) : Option Function :=
  all.find? fun f => f.name == name && f.isIn v

end Function

end Embedder.Wasi
