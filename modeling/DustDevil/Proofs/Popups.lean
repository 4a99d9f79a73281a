import Mathlib.Data.Finset.Basic
import Mathlib.Data.List.Perm.Basic
import DustDevil.Client.Popups
import DustDevil.Lib.Steps
import DustDevil.Lib.Writes

/-!
# What a notification does to a popup's list

A user is found by its name, so a notification about it does to the list what it says
(`userChanged_changed`), and the list stays sorted by an order in which two names may have the same
place (`users_sorted_and_told`). A socket is found by the order of the list, which two addresses
with the same place spoil: where there are none the notification does what it says
(`socketChanged_changed`, `sockets_sorted_and_told`).
-/

namespace DustDevil

open Wire

/-! ## Users -/

section Users

variable (toLowercase : Char → List Char)

theorem lowercaseCmp_eq : ∀ x y : List Char, lowercaseCmp x y = compare x y
  | [], [] => rfl
  | [], _ :: _ => rfl
  | _ :: _, [] => rfl
  | c :: x, d :: y => by
    rw [lowercaseCmp, lowercaseCmp_eq x y, List.compare_cons_cons]
    cases compare c d <;> rfl

/-- The lowercase forms of the characters, one after the other, decide. -/
theorem stringsNocaseCmp_eq : ∀ x y : Str,
    stringsNocaseCmp toLowercase x y = List.compareLex (compareOn toLowercase) x y
  | [], [] => rfl
  | [], _ :: _ => rfl
  | _ :: _, [] => rfl
  | c :: x, d :: y => by
    rw [stringsNocaseCmp, lowercaseCmp_eq, stringsNocaseCmp_eq x y, List.compareLex_cons_cons]
    unfold compareOn
    cases compare (toLowercase c) (toLowercase d) <;> rfl

instance stringsNocaseCmp_transCmp : Std.TransCmp (stringsNocaseCmp toLowercase) := by
  have heq : stringsNocaseCmp toLowercase = List.compareLex (compareOn toLowercase) :=
    funext fun x => funext fun y => stringsNocaseCmp_eq toLowercase x y
  rw [heq]
  infer_instance

instance usersSortCmp_transCmp : Std.TransCmp (usersSortCmp toLowercase) where
  eq_swap {a b} := by
    rcases a with ⟨a, _ | _⟩ <;> rcases b with ⟨b, _ | _⟩
    · exact (stringsNocaseCmp_transCmp toLowercase).eq_swap
    · rfl
    · rfl
    · exact (stringsNocaseCmp_transCmp toLowercase).eq_swap
  isLE_trans {a b c} hab hbc := by
    rcases a with ⟨a, _ | _⟩ <;> rcases b with ⟨b, _ | _⟩ <;> rcases c with ⟨c, _ | _⟩
    · exact (stringsNocaseCmp_transCmp toLowercase).isLE_trans hab hbc
    · rfl
    · cases hbc
    · rfl
    · cases hab
    · cases hab
    · cases hbc
    · exact (stringsNocaseCmp_transCmp toLowercase).isLE_trans hab hbc

namespace UsersController

/-- What a notification says of the users. -/
def noticeChange (notificationType : UserNotificationType) (username : Str) (role : UserRole) :
    Change Str (Str × UserRole) :=
  match notificationType with
  | .deleted => .remove username
  | _ => .set (username, role)

theorem insertUser_perm (users : List (Str × UserRole)) (user : Str × UserRole) :
    (insertUser toLowercase users user).Perm (user :: users) := by
  unfold insertUser
  rcases h : binarySearchBy (fun x => usersSortCmp toLowercase x user) users with idx | idx
  · exact List.perm_insertIdx _ _ (binarySearchBy_le h)
  · obtain ⟨a, ha, -⟩ := binarySearchBy_ok h
    exact List.perm_insertIdx _ _ (List.getElem?_eq_some_iff.1 ha).1.le

variable {toLowercase} {inner : UsersController} {username : Str} {role : UserRole}

theorem eraseIdx_changed {users : List (Str × UserRole)} (h : Distinct Prod.fst users)
    (index : Fin users.length) :
    Changed Prod.fst users (users.eraseIdx index) (.remove users[index].1) :=
  .erase h (List.getElem_cons_eraseIdx_perm index.isLt)

theorem insertUser_changed {users : List (Str × UserRole)} (h : Distinct Prod.fst users)
    (hnone : ∀ user ∈ users, user.1 ≠ username) :
    Changed Prod.fst users (insertUser toLowercase users (username, role))
      (.set (username, role)) :=
  .insert h hnone (insertUser_perm toLowercase users _)

theorem searchResult_eq_none (h : inner.searchResult username = none) :
    ∀ user ∈ inner.users, user.1 ≠ username := by
  intro user huser
  simpa using List.findFinIdx?_eq_none_iff.1 h user huser

theorem searchResult_eq_some {users : List (Str × UserRole)} {index : Fin users.length}
    (h : users.findFinIdx? (fun user => user.1 = username) = some index) :
    users[index].1 = username :=
  of_decide_eq_true (List.findFinIdx?_eq_some_iff.1 h).1

theorem setUser_changed (h : Distinct Prod.fst inner.users) :
    Changed Prod.fst inner.users (inner.setUser toLowercase username role).users
      (.set (username, role)) := by
  unfold setUser
  rcases hfind : inner.searchResult username with _ | index
  · exact insertUser_changed h (searchResult_eq_none hfind)
  · have hname := searchResult_eq_some hfind
    simp only
    split_ifs with hrole
    · refine .same h ((find_eq_some h).2 ⟨?_, rfl⟩)
      rw [← hname, ← hrole]
      exact List.getElem_mem _
    · have herase := eraseIdx_changed h index
      rw [hname] at herase ⊢
      refine herase.replace (insertUser_changed herase.distinct fun user huser => ?_)
      have hcons := Distinct.cons_iff.1 (h.of_perm (List.getElem_cons_eraseIdx_perm index.isLt))
      rw [← hname]
      exact hcons.1 user huser

/-- A notification does to the list what it says. -/
theorem userChanged_changed (toLowercase : Char → List Char) (h : Distinct Prod.fst inner.users)
    (notificationType : UserNotificationType) (username : Str) (role : UserRole) :
    Changed Prod.fst inner.users
      (userChanged toLowercase notificationType username role inner).users
      (noticeChange notificationType username role) := by
  rcases notificationType with _ | _ | _
  · exact setUser_changed h
  · exact setUser_changed h
  · unfold userChanged
    rcases hfind : inner.searchResult username with _ | index
    · exact .same h (find_eq_none.2 (searchResult_eq_none hfind))
    · have herase := eraseIdx_changed h index
      rw [searchResult_eq_some hfind] at herase
      exact herase

/-- The place for a user keeps the list sorted, also where others have the same. -/
theorem insertUser_sorted {users : List (Str × UserRole)}
    (h : SortedBy (usersSortCmp toLowercase) users) (user : Str × UserRole) :
    SortedBy (usersSortCmp toLowercase) (insertUser toLowercase users user) := by
  unfold insertUser
  rcases hsearch : binarySearchBy (fun x => usersSortCmp toLowercase x user) users with idx | idx
  · exact h.insertIdx (binarySearchBy_error (h.inOrder user) hsearch)
  · obtain ⟨x, hx, heq⟩ := binarySearchBy_ok hsearch
    exact h.insertIdx_of_eq hx heq

theorem eraseIdx_sorted {users : List (Str × UserRole)}
    (h : SortedBy (usersSortCmp toLowercase) users) (index : ℕ) :
    SortedBy (usersSortCmp toLowercase) (users.eraseIdx index) :=
  h.sublist (List.eraseIdx_sublist _ _)

theorem userChanged_sorted (h : SortedBy (usersSortCmp toLowercase) inner.users)
    (notificationType : UserNotificationType) (username : Str) (role : UserRole) :
    SortedBy (usersSortCmp toLowercase)
      (userChanged toLowercase notificationType username role inner).users := by
  have hset : SortedBy (usersSortCmp toLowercase)
      (inner.setUser toLowercase username role).users := by
    unfold setUser
    rcases inner.searchResult username with _ | index
    · exact insertUser_sorted h _
    · simp only
      split_ifs
      · exact h
      · exact insertUser_sorted (eraseIdx_sorted h index) _
  rcases notificationType with _ | _ | _
  · exact hset
  · exact hset
  · unfold userChanged
    rcases inner.searchResult username with _ | index
    · exact h
    · exact eraseIdx_sorted h index

/-- The list after some notifications. -/
def userChangedAll (toLowercase : Char → List Char)
    (notices : List (UserNotificationType × Str × UserRole)) (inner : UsersController) :
    UsersController :=
  notices.foldl (fun inner notice => inner.userChanged toLowercase notice.1 notice.2.1 notice.2.2)
    inner

theorem userChangedAll_changed (notices : List (UserNotificationType × Str × UserRole))
    (hsorted : SortedBy (usersSortCmp toLowercase) inner.users)
    (hdistinct : Distinct Prod.fst inner.users) :
    SortedBy (usersSortCmp toLowercase) (userChangedAll toLowercase notices inner).users
      ∧ Distinct Prod.fst (userChangedAll toLowercase notices inner).users
      ∧ find Prod.fst (userChangedAll toLowercase notices inner).users
        = changeAll Prod.fst (find Prod.fst inner.users)
          (notices.map fun notice => noticeChange notice.1 notice.2.1 notice.2.2) := by
  induction notices generalizing inner with
  | nil => exact ⟨hsorted, hdistinct, rfl⟩
  | cons notice notices ih =>
    have hchanged := userChanged_changed toLowercase hdistinct notice.1 notice.2.1 notice.2.2
    have hsorted' := userChanged_sorted hsorted notice.1 notice.2.1 notice.2.2
    obtain ⟨h1, h2, h3⟩ := ih hsorted' hchanged.distinct
    refine ⟨h1, h2, ?_⟩
    rw [List.map_cons, changeAll_cons, ← hchanged.find_eq]
    exact h3

end UsersController

/-- The users' order is a total preorder, and the list of users is sorted by it, has no name twice
and has the user that a name has after all the notifications. Names are the same only if all their
characters are. -/
theorem users_sorted_and_told (toLowercase : Char → List Char) :
    ((∀ x y, usersSortCmp toLowercase y x = (usersSortCmp toLowercase x y).swap)
      ∧ ∀ x y z, (usersSortCmp toLowercase x y).isLE → (usersSortCmp toLowercase y z).isLE →
        (usersSortCmp toLowercase x z).isLE)
    ∧ ∀ (sort : UnstableSort (Str × UserRole)) (inner : UsersController)
      (list : List (Str × UserRole)) (notices : List (UserNotificationType × Str × UserRole)),
      Distinct Prod.fst list →
      SortedBy (usersSortCmp toLowercase) (UsersController.userChangedAll toLowercase notices
        (inner.usersLoaded toLowercase sort list)).users
      ∧ Distinct Prod.fst (UsersController.userChangedAll toLowercase notices
        (inner.usersLoaded toLowercase sort list)).users
      ∧ find Prod.fst (UsersController.userChangedAll toLowercase notices
          (inner.usersLoaded toLowercase sort list)).users
        = changeAll Prod.fst (find Prod.fst list) (notices.map fun notice =>
          UsersController.noticeChange notice.1 notice.2.1 notice.2.2) := by
  refine ⟨⟨fun x y => Std.OrientedCmp.eq_swap, fun x y z => Std.TransCmp.isLE_trans⟩,
    fun sort inner list notices hd => ?_⟩
  have hperm : (inner.usersLoaded toLowercase sort list).users.Perm list := sort.perm _ _
  have hsorted : SortedBy (usersSortCmp toLowercase)
      (inner.usersLoaded toLowercase sort list).users := sort.sorted _ _
  rw [← find_of_perm hd hperm]
  exact UsersController.userChangedAll_changed notices hsorted (hd.of_perm hperm)

theorem users_sorted_and_told_ana :
    ∃ inner : UsersController,
      find Prod.fst inner.users "Ana".toList = some ("Ana".toList, .regular)
      ∧ find Prod.fst inner.users "ana".toList = some ("ana".toList, .regular) := by
  have htold := ((users_sorted_and_told fun c => [c.toLower]).2 (.mergeSort _) .new
    [("Ana".toList, .regular)] [(.registered, "ana".toList, .regular)]
    (List.nodup_singleton _)).2.2
  exact ⟨_, (congrFun htold _).trans (by decide), (congrFun htold _).trans (by decide)⟩

end Users

/-! ## Sockets -/

section Sockets

theorem portThenIpV4_transCmp : Std.TransCmp
    (compareLex (compareOn SocketAddrV4.port) (compareOn fun x : SocketAddrV4 => x.ip.bits)) :=
  inferInstance

theorem portThenIpV6_transCmp : Std.TransCmp
    (compareLex (compareOn SocketAddrV6.port) (compareOn fun x : SocketAddrV6 => x.ip.bits)) :=
  inferInstance

instance socketSortCmp_transCmp : Std.TransCmp socketSortCmp where
  eq_swap {a b} := by
    rcases a with a | a <;> rcases b with b | b
    · exact portThenIpV4_transCmp.eq_swap
    · rfl
    · rfl
    · exact portThenIpV6_transCmp.eq_swap
  isLE_trans {a b c} hab hbc := by
    rcases a with a | a <;> rcases b with b | b <;> rcases c with c | c
    · exact portThenIpV4_transCmp.isLE_trans hab hbc
    · cases hbc
    · cases hab
    · cases hab
    · rfl
    · cases hbc
    · rfl
    · exact portThenIpV6_transCmp.isLE_trans hab hbc

namespace SocketsController

/-- What a notification says of the sockets. -/
def noticeChange (socketAddress : SocketAddr) (state : Bool) : Change SocketAddr SocketAddr :=
  if state then .set socketAddress else .remove socketAddress

structure Valid (sockets : List SocketAddr) : Prop where
  distinct : Distinct id sockets
  sorted : SortedBy socketSortCmp sockets

variable {inner : SocketsController} {address : SocketAddr} {state : Bool}

theorem socketsLoaded_valid (sort : UnstableSort SocketAddr) (inner : SocketsController)
    {list : List SocketAddr} (h : Distinct id list) :
    Valid (inner.socketsLoaded sort list).sockets :=
  ⟨h.of_perm (sort.perm _ _), sort.sorted _ _⟩

/-- The search finds an address that is there and no other one. -/
theorem search_ok {sockets : List SocketAddr}
    (hfits : ∀ x ∈ sockets, socketSortCmp x address = .eq → x = address) {index : ℕ}
    (h : binarySearchBy (fun x => socketSortCmp x address) sockets = .ok index) :
    ∃ hlt : index < sockets.length, sockets[index] = address := by
  obtain ⟨x, hx, heq⟩ := binarySearchBy_ok h
  obtain ⟨hlt, rfl⟩ := List.getElem?_eq_some_iff.1 hx
  exact ⟨hlt, hfits _ (List.getElem_mem hlt) heq⟩

theorem search_error {sockets : List SocketAddr} (hv : Valid sockets) {index : ℕ}
    (h : binarySearchBy (fun x => socketSortCmp x address) sockets = .error index) :
    Between (fun x => socketSortCmp x address) sockets index index
      ∧ ∀ x ∈ sockets, x ≠ address := by
  have hb := binarySearchBy_error (hv.sorted.inOrder address) h
  refine ⟨hb, ?_⟩
  rintro x hx rfl
  obtain ⟨i, hi⟩ := List.mem_iff_getElem?.1 hx
  have hself : socketSortCmp x x = .eq := Std.ReflCmp.compare_self
  rcases Nat.lt_or_ge i index with hlt | hge
  · exact absurd (hself.symm.trans (hb.below i x hlt hi)) (by decide)
  · exact absurd (hself.symm.trans (hb.above i x hge hi)) (by decide)

/-- A notification does to the list what it says, if the list has no other address at the place of
its own. -/
theorem socketChanged_changed (hv : Valid inner.sockets)
    (hfits : ∀ x ∈ inner.sockets, socketSortCmp x address = .eq → x = address) :
    Changed id inner.sockets (inner.socketChanged address state).sockets
        (noticeChange address state)
      ∧ Valid (inner.socketChanged address state).sockets := by
  unfold socketChanged
  rcases hsearch : binarySearchBy (fun x => socketSortCmp x address) inner.sockets with
    index | index
  · obtain ⟨hb, hnone⟩ := search_error hv hsearch
    rcases state with _ | _
    · exact ⟨.same hv.distinct (find_eq_none.2 hnone), hv⟩
    · have hinsert : Changed id inner.sockets (inner.sockets.insertIdx index address)
          (.set address) := .insert hv.distinct hnone (List.perm_insertIdx _ _ hb.right_le)
      exact ⟨hinsert, hinsert.distinct, hv.sorted.insertIdx hb⟩
  · obtain ⟨hlt, rfl⟩ := search_ok hfits hsearch
    rcases state with _ | _
    · have herase : Changed id inner.sockets (inner.sockets.eraseIdx index)
          (.remove inner.sockets[index]) :=
        .erase hv.distinct (List.getElem_cons_eraseIdx_perm hlt)
      exact ⟨herase, herase.distinct, hv.sorted.sublist (List.eraseIdx_sublist _ _)⟩
    · refine ⟨.same hv.distinct ((find_eq_some hv.distinct).2 ⟨?_, rfl⟩), hv⟩
      exact List.getElem_mem hlt

/-- A notification can be told from what is in the list, or there is nothing to do. -/
def Fits (inner : SocketsController) (notice : SocketAddr × Bool) : Prop :=
  (notice.2 = true ∧ notice.1 ∈ inner.sockets)
    ∨ ∀ x ∈ inner.sockets, socketSortCmp x notice.1 = .eq → x = notice.1

theorem socketChanged_of_fits (hv : Valid inner.sockets) (hfits : inner.Fits (address, state)) :
    Changed id inner.sockets (inner.socketChanged address state).sockets
        (noticeChange address state)
      ∧ Valid (inner.socketChanged address state).sockets := by
  rcases hfits with ⟨hstate, hmem⟩ | hfits
  · obtain rfl : state = true := hstate
    unfold socketChanged
    rcases hsearch : binarySearchBy (fun x => socketSortCmp x address) inner.sockets with
      index | index
    · exact absurd rfl ((search_error hv hsearch).2 address hmem)
    · exact ⟨.same hv.distinct ((find_eq_some hv.distinct).2 ⟨hmem, rfl⟩), hv⟩
  · exact socketChanged_changed hv hfits

/-- The set after a notification. -/
def toldSocket (sockets : Finset SocketAddr) (notice : SocketAddr × Bool) : Finset SocketAddr :=
  if notice.2 then insert notice.1 sockets else sockets.erase notice.1

theorem mem_toldSocket {sockets sockets' : List SocketAddr} (hd : Distinct id sockets)
    (h : Changed id sockets sockets' (noticeChange address state)) (x : SocketAddr) :
    x ∈ sockets' ↔ x ∈ toldSocket sockets.toFinset (address, state) := by
  have hmem : ∀ {l : List SocketAddr}, Distinct id l → (x ∈ l ↔ find id l x = some x) :=
    fun hd => by rw [find_eq_some hd]; exact (and_iff_left rfl).symm
  rw [hmem h.distinct, h.find_eq, change, Function.update_apply]
  cases state
  · simp only [noticeChange, toldSocket]
    by_cases hx : x = address
    · simp [Change.target, Change.entry, hx]
    · simp [Change.target, hx, ← hmem hd]
  · simp only [noticeChange, toldSocket]
    by_cases hx : x = address
    · simp [Change.target, Change.entry, hx]
    · simp [Change.target, hx, ← hmem hd]

def changeSocket (inner : SocketsController) (notice : SocketAddr × Bool) :
    Option SocketsController :=
  some (inner.socketChanged notice.1 notice.2)

theorem told_run {notices : List (SocketAddr × Bool)} {inner' : SocketsController}
    (hv : Valid inner.sockets) (hfits : AlongRun changeSocket Fits inner notices)
    (hrun : runSteps changeSocket inner notices = some inner') :
    Valid inner'.sockets
      ∧ inner'.sockets.toFinset = notices.foldl toldSocket inner.sockets.toFinset := by
  induction notices generalizing inner with
  | nil =>
    obtain rfl := Option.some.inj hrun
    exact ⟨hv, rfl⟩
  | cons notice notices ih =>
    obtain ⟨hchanged, hv'⟩ := socketChanged_of_fits hv hfits.1
    have htold : (inner.socketChanged notice.1 notice.2).sockets.toFinset
        = toldSocket inner.sockets.toFinset notice := by
      ext x
      rw [List.mem_toFinset]
      exact mem_toldSocket hv.distinct hchanged x
    obtain ⟨hvalid, htold'⟩ := ih hv' (hfits.2 _ rfl) hrun
    refine ⟨hvalid, ?_⟩
    rw [List.foldl_cons, ← htold]
    exact htold'

end SocketsController

open SocketsController

/-- The list of sockets is sorted, has no address twice and has the addresses that are told, if no
notification is of an address that compares equal to a different one in the list. -/
theorem sockets_sorted_and_told (sort : UnstableSort SocketAddr) (inner : SocketsController)
    {list : List SocketAddr} (hlist : list.Nodup) {notices : List (SocketAddr × Bool)}
    (hfits : AlongRun changeSocket Fits (inner.socketsLoaded sort list) notices)
    {inner' : SocketsController}
    (hrun : runSteps changeSocket (inner.socketsLoaded sort list) notices = some inner') :
    SortedBy socketSortCmp inner'.sockets ∧ inner'.sockets.Nodup
      ∧ inner'.sockets.toFinset = notices.foldl toldSocket list.toFinset := by
  have hd : Distinct id list := by rwa [Distinct, List.map_id]
  obtain ⟨hv, htold⟩ := told_run (socketsLoaded_valid sort inner hd) hfits hrun
  refine ⟨hv.sorted, hv.distinct.nodup, htold.trans ?_⟩
  have hperm : (inner.socketsLoaded sort list).sockets.Perm list := sort.perm _ _
  rw [List.toFinset_eq_of_perm _ _ hperm]

/-- Two link-local addresses of one port on different interfaces. -/
def scopedSocket (scopeId : UInt32) : SocketAddr :=
  .v6 ⟨⟨0xFE800000000000000000000000000001⟩, 1080, 0, scopeId⟩

def anySocket (port : UInt16) : SocketAddr := .v4 ⟨⟨0⟩, port⟩

def threeSockets : List SocketAddr := [scopedSocket 1, anySocket 1081, anySocket 1083]

theorem socketsLoaded_threeSockets :
    SocketsController.new.socketsLoaded (.mergeSort _) threeSockets
      = ⟨SocketsController.new.base.setIsLoading false, threeSockets, true⟩ :=
  congrArg (SocketsController.mk _ · true) (List.mergeSort_of_pairwise (by decide))

theorem sockets_sorted_and_told_scoped :
    ∃ inner, runSteps changeSocket (SocketsController.new.socketsLoaded (.mergeSort _)
        threeSockets) [(anySocket 1082, true), (anySocket 1081, false)] = some inner
      ∧ SortedBy socketSortCmp inner.sockets
      ∧ inner.sockets.toFinset = {scopedSocket 1, anySocket 1082, anySocket 1083} := by
  have hfits : AlongRun changeSocket Fits (SocketsController.new.socketsLoaded (.mergeSort _)
      threeSockets) [(anySocket 1082, true), (anySocket 1081, false)] := by
    rw [socketsLoaded_threeSockets]
    exact .cons (.inr (by decide)) rfl (.cons (.inr (by decide)) rfl trivial)
  obtain ⟨hsorted, -, htold⟩ := sockets_sorted_and_told _ _ (by decide) hfits rfl
  exact ⟨_, rfl, hsorted, htold.trans (by decide)⟩

theorem not_sockets_told_scoped :
    ¬ ∀ (list : List SocketAddr) (notices : List (SocketAddr × Bool)), list.Nodup →
      ∀ inner, runSteps changeSocket (SocketsController.new.socketsLoaded (.mergeSort _) list)
        notices = some inner →
      inner.sockets.toFinset = notices.foldl toldSocket list.toFinset := by
  intro h
  have htold := h [scopedSocket 1] [(scopedSocket 2, true)] (List.nodup_singleton _) _ rfl
  have hloaded : (SocketsController.new.socketsLoaded (.mergeSort _) [scopedSocket 1]).sockets
      = [scopedSocket 1] := List.mergeSort_singleton _
  have hfound : binarySearchBy (fun x => socketSortCmp x (scopedSocket 2)) [scopedSocket 1]
      = .ok 0 := rfl
  unfold socketChanged at htold
  simp only [hloaded, hfound] at htold
  exact absurd htold (by decide)

end Sockets

end DustDevil
