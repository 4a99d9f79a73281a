import DustDevil.Core.Logging
import DustDevil.Lib.Slice

/-!
# The lists that the client shows

The client's `users_popup.rs` and `sockets_popup.rs`, of which these are the controllers' lists, how
they are loaded and how a notification changes them, and `UIManager::handle_stream_event`, which
makes notifications of the server's events. `char::to_lowercase` and `sort_unstable_by` are
parameters.
-/

namespace DustDevil

open Wire

/-! ## Notifications -/

inductive UserNotificationType where
  | registered
  | updated
  | deleted
  deriving DecidableEq, Repr

inductive SocketPopupType where
  | socks5
  | sandstorm
  deriving DecidableEq, Repr

/-- What is sent on the `UIManager`'s channels. -/
inductive WatchMessage where
  | socks5Sockets (address : SocketAddr) (state : Bool)
  | sandstormSockets (address : SocketAddr) (state : Bool)
  | bufferSize (bufferSize : UInt32)
  | authMethods (authMethod : AuthMethod) (state : Bool)
  | users (notificationType : UserNotificationType) (username : Str) (role : UserRole)
  deriving DecidableEq, Repr

/-- What `UIManager::handle_stream_event` sends, given how many receivers `users_watch` has. -/
def handleStreamEvent (usersReceivers : ℕ) : EventData → Option WatchMessage
  | .newSocks5Socket address => some (.socks5Sockets address true)
  | .removedSocks5Socket address => some (.socks5Sockets address false)
  | .newSandstormSocket address => some (.sandstormSockets address true)
  | .removedSandstormSocket address => some (.sandstormSockets address false)
  | .bufferSizeChangedByManager _ bufferSize => some (.bufferSize bufferSize)
  | .authMethodToggledByManager _ authMethod state => some (.authMethods authMethod state)
  | .userRegisteredByManager _ username role =>
    if usersReceivers ≠ 0 then some (.users .registered username role) else none
  | .userUpdatedByManager _ username role _ =>
    if usersReceivers ≠ 0 then some (.users .updated username role) else none
  | .userDeletedByManager _ username role =>
    if usersReceivers ≠ 0 then some (.users .deleted username role) else none
  | _ => none

/-- The parts of a `LoadingPopupControllerInner` that its controllers change here; the redraw
notifier holds one permit at most. -/
structure LoadingPopupInner where
  redrawNotified : Bool
  resizeRequested : Bool
  isLoading : Bool
  deriving DecidableEq, Repr

namespace LoadingPopupInner

def redrawNotify (base : LoadingPopupInner) : LoadingPopupInner :=
  { base with redrawNotified := true }

def requestResize (base : LoadingPopupInner) : LoadingPopupInner :=
  { base with resizeRequested := true, redrawNotified := true }

def setIsLoading (base : LoadingPopupInner) (loading : Bool) : LoadingPopupInner :=
  if base.isLoading ≠ loading then ({ base with isLoading := loading }).requestResize else base

end LoadingPopupInner

/-! ## Users -/

section Users

/-- How the lowercase forms of two characters compare. -/
def lowercaseCmp : List Char → List Char → Ordering
  | [], [] => .eq
  | _ :: _, [] => .gt
  | [], _ :: _ => .lt
  | c :: cal, d :: cbl =>
    match compare c d with
    | .lt => .lt
    | .gt => .gt
    | .eq => lowercaseCmp cal cbl

variable (toLowercase : Char → List Char)

def stringsNocaseCmp : Str → Str → Ordering
  | [], [] => .eq
  | _ :: _, [] => .gt
  | [], _ :: _ => .lt
  | ca :: a, cb :: b =>
    match lowercaseCmp (toLowercase ca) (toLowercase cb) with
    | .eq => stringsNocaseCmp a b
    | order => order

def usersSortCmp (x y : Str × UserRole) : Ordering :=
  match x.2, y.2 with
  | .admin, .regular => .lt
  | .regular, .admin => .gt
  | _, _ => stringsNocaseCmp toLowercase x.1 y.1

structure UsersController where
  base : LoadingPopupInner
  users : List (Str × UserRole)
  didListChange : Bool

namespace UsersController

def new : UsersController := ⟨⟨false, false, true⟩, [], false⟩

def usersLoaded (sort : UnstableSort (Str × UserRole)) (list : List (Str × UserRole))
    (inner : UsersController) : UsersController where
  base := inner.base.setIsLoading false
  users := sort.sort (usersSortCmp toLowercase) list
  didListChange := true

/-- The `binary_search_by` for a user's place, and the `insert`. -/
def insertUser (users : List (Str × UserRole)) (user : Str × UserRole) : List (Str × UserRole) :=
  match binarySearchBy (fun x => usersSortCmp toLowercase x user) users with
  | .ok idx => users.insertIdx idx user
  | .error idx => users.insertIdx idx user

/-- Where the user of a name is. -/
def searchResult (inner : UsersController) (username : Str) : Option (Fin inner.users.length) :=
  inner.users.findFinIdx? fun user => user.1 = username

/-- What is done when the list has changed. -/
def changedTo (inner : UsersController) (users : List (Str × UserRole)) : UsersController :=
  ⟨inner.base.redrawNotify, users, true⟩

/-- The arm of a user that is registered or updated. -/
def setUser (username : Str) (role : UserRole) (inner : UsersController) : UsersController :=
  match inner.searchResult username with
  | some index =>
    if inner.users[index].2 = role then inner
    else inner.changedTo (insertUser toLowercase (inner.users.eraseIdx index)
      (inner.users[index].1, role))
  | none => inner.changedTo (insertUser toLowercase inner.users (username, role))

def userChanged (notificationType : UserNotificationType) (username : Str) (role : UserRole)
    (inner : UsersController) : UsersController :=
  match notificationType with
  | .registered | .updated => inner.setUser toLowercase username role
  | .deleted =>
    match inner.searchResult username with
    | some index => inner.changedTo (inner.users.eraseIdx index)
    | none => inner.changedTo inner.users

end UsersController

end Users

/-! ## Sockets -/

def socketSortCmp : SocketAddr → SocketAddr → Ordering
  | .v4 _, .v6 _ => .gt
  | .v6 _, .v4 _ => .lt
  | .v4 x, .v4 y => (compare x.port y.port).then (compare x.ip.bits y.ip.bits)
  | .v6 x, .v6 y => (compare x.port y.port).then (compare x.ip.bits y.ip.bits)

structure SocketsController where
  base : LoadingPopupInner
  sockets : List SocketAddr
  didListChange : Bool

namespace SocketsController

def new : SocketsController := ⟨⟨false, false, true⟩, [], false⟩

def socketsLoaded (sort : UnstableSort SocketAddr) (list : List SocketAddr)
    (inner : SocketsController) : SocketsController where
  base := inner.base.setIsLoading false
  sockets := sort.sort socketSortCmp list
  didListChange := true

def socketChanged (socketAddress : SocketAddr) (state : Bool) (inner : SocketsController) :
    SocketsController :=
  let changed (sockets : List SocketAddr) : SocketsController :=
    ⟨inner.base.redrawNotify, sockets, true⟩
  match state, binarySearchBy (fun x => socketSortCmp x socketAddress) inner.sockets with
  | true, .ok _ => inner
  | true, .error index => changed (inner.sockets.insertIdx index socketAddress)
  | false, .ok index => changed (inner.sockets.eraseIdx index)
  | false, .error _ => inner

end SocketsController

end DustDevil
