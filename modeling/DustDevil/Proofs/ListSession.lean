import DustDevil.Client.ListSession
import DustDevil.Proofs.Popups

/-!
# When a popup follows the server

The list that the popup loads reflects the events before it, so it does not matter how many of these
the popup gets once more. What matters are the events after it: while the popup misses none of them,
its list with what it has yet to receive is the server's (`Follows`), and so it has the server's
list once everything is handled (`popups_follow`).
-/

namespace DustDevil

open Wire

variable {κ α ν γ : Type}

/-- A popup whose lists do what is said of them: `Valid` holds of them, and a notification says what
its event did. -/
structure ListPopup.Faithful [DecidableEq κ] (p : ListPopup κ α ν γ) (noticeChange : ν → Change κ α)
    (Valid : List α → Prop) : Prop where
  distinct : ∀ list, Valid list → Distinct p.key list
  loaded : ∀ list inner, Distinct p.key list →
    Valid (p.things (p.loaded list inner)) ∧ (p.things (p.loaded list inner)).Perm list
  changed : ∀ notice inner, Valid (p.things inner) → p.noticeFits notice inner →
    Changed p.key (p.things inner) (p.things (p.changed notice inner)) (noticeChange notice)
      ∧ Valid (p.things (p.changed notice inner))
  watched : ∀ receivers data, receivers ≠ 0 →
    ((handleStreamEvent receivers data).bind p.watch).map noticeChange = p.change data

namespace ListSession

section Waiting

variable (p : ListPopup κ α ν γ) (s : ListSession α ν γ)

def eventsIn (messages : List (ListMessage α)) : List (Event × Bool) :=
  messages.filterMap fun
    | .event event later => some (event, later)
    | .list _ => none

def listsIn (messages : List (ListMessage α)) : List (List α) :=
  messages.filterMap fun
    | .event _ _ => none
    | .list list => some list

/-- The events that have not been handed on yet, in order. -/
def waiting : List (Event × Bool) := s.stream ++ (eventsIn s.inFlight ++ s.events)

/-- The list, while it is under way. -/
def lists : List (List α) := s.listReceived.toList ++ (listsIn s.inFlight ++ s.response.toList)

/-- What the events say of the server's list. -/
def changesOf (events : List (Event × Bool)) : List (Change κ α) :=
  events.filterMap fun entry => p.change entry.1.data

variable {p s}

theorem changesOf_append (events events' : List (Event × Bool)) :
    changesOf p (events ++ events') = changesOf p events ++ changesOf p events' :=
  List.filterMap_append

theorem changesOf_cons (event : Event) (later : Bool) (events : List (Event × Bool)) :
    changesOf p ((event, later) :: events)
      = (p.change event.data).toList ++ changesOf p events := by
  unfold changesOf
  rw [List.filterMap_cons]
  cases p.change event.data <;> rfl

theorem changesOf_snoc (events : List (Event × Bool)) (event : Event) (later : Bool) :
    changesOf p (events ++ [(event, later)])
      = changesOf p events ++ (p.change event.data).toList := by
  rw [changesOf_append, changesOf_cons]
  exact congrArg _ (List.append_nil _)

theorem handleStreamEvent_server (data : EventData) :
    (s.handleStreamEvent p data).server = s.server := by
  unfold handleStreamEvent
  split
  · split_ifs <;> rfl
  · rfl

/-- Before the popup subscribes, handing an event on changes nothing but the stream. -/
theorem handleStreamEvent_unsubscribed (hcursor : s.cursor = none) (data : EventData) :
    s.handleStreamEvent p data = s := by
  have hreceivers : s.receivers = 0 := by simp [receivers, hcursor]
  unfold handleStreamEvent
  rw [hreceivers]
  split <;> rfl

end Waiting

section Follows

variable [DecidableEq κ] {p : ListPopup κ α ν γ} {s s' : ListSession α ν γ}

/-- How far the popup has come, and what its list then is to the server's. -/
inductive Follows (p : ListPopup κ α ν γ) (noticeChange : ν → Change κ α)
    (Valid : List α → Prop) (s : ListSession α ν γ) : Prop where
  | untaken (htaken : s.taken = false) (hlists : s.lists = []) (hcursor : s.cursor = none)
      (hold : ∀ entry ∈ s.waiting, entry.2 = false)
      (hreflects : Reflects p.key (find p.key s.server) (changesOf p s.waiting))
  | taken (list : List α) (old new : List (Event × Bool)) (htaken : s.taken = true)
      (hlists : s.lists = [list]) (hcursor : s.cursor = none) (hdistinct : Distinct p.key list)
      (hwaiting : s.waiting = old ++ new) (hnew : ∀ entry ∈ new, entry.2 = true)
      (hreflects : Reflects p.key (find p.key list) (changesOf p old))
      (hserver : find p.key s.server = changeAll p.key (find p.key list) (changesOf p new))
  | loaded (cursor : ℕ) (htaken : s.taken = true) (hlists : s.lists = [])
      (hcursor : s.cursor = some cursor) (hle : cursor ≤ s.sent.length)
      (hvalid : Valid (p.things s.popup))
      (hserver : find p.key s.server = changeAll p.key (find p.key (p.things s.popup))
        ((s.sent.drop cursor).map noticeChange ++ changesOf p s.waiting))

variable {noticeChange : ν → Change κ α} {Valid : List α → Prop}

/-- Neither what is under way on the wire nor where it is there matters. -/
theorem Follows.of_same (hf : Follows p noticeChange Valid s) (hserver : s'.server = s.server)
    (htaken : s'.taken = s.taken) (hwaiting : s'.waiting = s.waiting) (hlists : s'.lists = s.lists)
    (hsent : s'.sent = s.sent) (hcursor : s'.cursor = s.cursor) (hpopup : s'.popup = s.popup) :
    Follows p noticeChange Valid s' := by
  cases hf with
  | untaken h1 h2 h3 h4 h5 =>
    exact .untaken (htaken.trans h1) (hlists.trans h2) (hcursor.trans h3)
      (by rwa [hwaiting]) (by rwa [hserver, hwaiting])
  | taken list old new h1 h2 h3 h4 h5 h6 h7 h8 =>
    exact .taken list old new (htaken.trans h1) (hlists.trans h2) (hcursor.trans h3) h4
      (hwaiting.trans h5) h6 h7 (by rwa [hserver])
  | loaded cursor h1 h2 h3 h4 h5 h6 =>
    exact .loaded cursor (htaken.trans h1) (hlists.trans h2) (hcursor.trans h3) (by rwa [hsent])
      (by rwa [hpopup]) (by rwa [hserver, hpopup, hsent, hwaiting])

/-- The server's list with the event. -/
theorem find_occur (hd : Distinct p.key s.server) (data : EventData) :
    Distinct p.key ((p.change data).elim s.server (changeEntries p.key s.server))
      ∧ find p.key ((p.change data).elim s.server (changeEntries p.key s.server))
        = changeAll p.key (find p.key s.server) (p.change data).toList := by
  rcases p.change data with _ | c
  · exact ⟨hd, rfl⟩
  · have hchanged := changeEntries_changed hd c
    exact ⟨hchanged.distinct, hchanged.find_eq⟩

theorem Follows.occur (hf : Follows p noticeChange Valid s) (hd : Distinct p.key s.server)
    (event : Event) : Follows p noticeChange Valid { s with
      server := (p.change event.data).elim s.server (changeEntries p.key s.server)
      events := s.events ++ [(event, s.taken)] } := by
  have hserver := (find_occur hd event.data).2
  set s1 : ListSession α ν γ := { s with
    server := (p.change event.data).elim s.server (changeEntries p.key s.server)
    events := s.events ++ [(event, s.taken)] } with hs1
  have hwaiting : s1.waiting = s.waiting ++ [(event, s.taken)] := by
    simp [hs1, waiting]
  cases hf with
  | untaken h1 h2 h3 h4 h5 =>
    refine .untaken h1 h2 h3 ?_ ?_
    · rw [hwaiting, h1]
      simpa using h4
    · rw [hwaiting, changesOf_snoc]
      show Reflects p.key (find p.key s1.server) _
      rw [hs1, hserver]
      rcases p.change event.data with _ | c
      · simpa using h5
      · exact h5.snoc c
  | taken list old new h1 h2 h3 h4 h5 h6 h7 h8 =>
    refine .taken list old (new ++ [(event, s.taken)]) h1 h2 h3 h4 ?_ ?_ h7 ?_
    · rw [hwaiting, h5, List.append_assoc]
    · rw [h1]
      simpa using h6
    · rw [changesOf_snoc, changeAll_append, ← h8]
      exact hserver
  | loaded cursor h1 h2 h3 h4 h5 h6 =>
    refine .loaded cursor h1 h2 h3 h4 h5 ?_
    rw [hwaiting, changesOf_snoc, ← List.append_assoc, changeAll_append, ← h6]
    exact hserver

/-- A popup that has subscribed has its list, and what it has yet to receive. -/
theorem Follows.of_cursor (hf : Follows p noticeChange Valid s) {cursor : ℕ}
    (hcursor : s.cursor = some cursor) :
    (s.taken = true ∧ s.lists = [] ∧ cursor ≤ s.sent.length) ∧ Valid (p.things s.popup)
      ∧ find p.key s.server = changeAll p.key (find p.key (p.things s.popup))
        ((s.sent.drop cursor).map noticeChange ++ changesOf p s.waiting) := by
  cases hf with
  | untaken h1 h2 h3 => exact absurd (hcursor.symm.trans h3) (by simp)
  | taken list old new h1 h2 h3 => exact absurd (hcursor.symm.trans h3) (by simp)
  | loaded cursor' h1 h2 h3 h4 h5 h6 =>
    obtain rfl := Option.some.inj (hcursor.symm.trans h3)
    exact ⟨⟨h1, h2, h4⟩, h5, h6⟩

theorem lists_eq_nil (h : s.lists = []) :
    s.listReceived = none ∧ listsIn s.inFlight = [] ∧ s.response = none := by
  simpa [lists] using h

theorem Follows.takeList (hf : Follows p noticeChange Valid s) (hd : Distinct p.key s.server)
    {list : List α} (htaken : s.taken = false) (hperm : list.Perm s.server) :
    Follows p noticeChange Valid { s with taken := true, response := some list } := by
  cases hf with
  | untaken h1 h2 h3 h4 h5 =>
    obtain ⟨hreceived, hlists, hresponse⟩ := lists_eq_nil h2
    refine .taken list s.waiting [] rfl ?_ h3 (hd.of_perm hperm) ?_ (by simp) ?_ ?_
    · simp [lists, hreceived, hlists]
    · exact (List.append_nil _).symm
    · rwa [find_of_perm hd hperm]
    · exact (find_of_perm hd hperm).symm
  | taken list old new h1 => exact absurd (htaken.symm.trans h1) (by decide)
  | loaded cursor h1 => exact absurd (htaken.symm.trans h1) (by decide)

theorem Follows.readList (hf : Follows p noticeChange Valid s) {list : List α}
    {inFlight : List (ListMessage α)} (hinFlight : s.inFlight = .list list :: inFlight) :
    Follows p noticeChange Valid { s with inFlight := inFlight, listReceived := some list } := by
  have hlists : s.lists = s.listReceived.toList ++ (list :: (listsIn inFlight
      ++ s.response.toList)) := by
    rw [lists, hinFlight]
    rfl
  have hnone : s.listReceived = none := by
    rcases hreceived : s.listReceived with _ | list'
    · rfl
    · rw [hreceived] at hlists
      cases hf <;> simp_all
  refine hf.of_same rfl rfl ?_ ?_ rfl rfl rfl
  · rw [waiting, waiting, hinFlight]
    rfl
  · rw [hlists, hnone]
    rfl

/-- From then on, an event that says something of the list is sent to it. -/
theorem handleStreamEvent_subscribed (hp : p.Faithful noticeChange Valid) {cursor : ℕ}
    (hcursor : s.cursor = some cursor) (data : EventData) :
    ∃ notices, s.handleStreamEvent p data = { s with sent := s.sent ++ notices }
      ∧ notices.map noticeChange = (p.change data).toList := by
  have hreceivers : s.receivers ≠ 0 := by simp [receivers, hcursor]
  have hwatched := hp.watched s.receivers data hreceivers
  unfold handleStreamEvent
  rcases hnotice : (DustDevil.handleStreamEvent s.receivers data).bind p.watch with _ | notice <;>
    rw [hnotice] at hwatched
  · exact ⟨[], by simp, by rw [← hwatched]; rfl⟩
  · exact ⟨[notice], by simp [hreceivers], by rw [← hwatched]; rfl⟩

theorem Follows.dispatch (hp : p.Faithful noticeChange Valid)
    (hf : Follows p noticeChange Valid s) {event : Event} {later : Bool}
    {stream : List (Event × Bool)} (hstream : s.stream = (event, later) :: stream)
    (hok : later = true → p.change event.data ≠ none → s.cursor ≠ none) :
    Follows p noticeChange Valid
      ({ s with stream := stream }.handleStreamEvent p event.data) := by
  have hhead : s.waiting = (event, later) :: { s with stream := stream }.waiting := by
    simp [waiting, hstream]
  cases hf with
  | untaken h1 h2 h3 h4 h5 =>
    rw [handleStreamEvent_unsubscribed (s := { s with stream := stream }) h3]
    rw [hhead] at h4 h5
    refine .untaken h1 h2 h3 (fun entry hentry => h4 entry (List.mem_cons_of_mem _ hentry)) ?_
    rw [changesOf_cons] at h5
    exact h5.of_append
  | taken list old new h1 h2 h3 h4 h5 h6 h7 h8 =>
    rw [handleStreamEvent_unsubscribed (s := { s with stream := stream }) h3]
    rw [hhead] at h5
    rcases List.cons_eq_append_iff.1 h5 with ⟨rfl, rfl⟩ | ⟨old, rfl, hrest⟩
    · -- an event after the list was taken, which says nothing of it
      have hnone : p.change event.data = none := by
        by_contra hchange
        exact hok (h6 _ List.mem_cons_self) hchange h3
      refine .taken list [] _ h1 h2 h3 h4 rfl
        (fun entry hentry => h6 entry (List.mem_cons_of_mem _ hentry)) .nil ?_
      rw [changesOf_cons, hnone] at h8
      exact h8
    · refine .taken list old new h1 h2 h3 h4 hrest h6 ?_ h8
      rw [changesOf_cons] at h7
      exact h7.of_append
  | loaded cursor h1 h2 h3 h4 h5 h6 =>
    obtain ⟨notices, hsent, hnotices⟩ := handleStreamEvent_subscribed
      (s := { s with stream := stream }) hp h3 event.data
    rw [hsent]
    refine .loaded cursor h1 h2 h3 (by simp; omega) h5 ?_
    rw [hhead, changesOf_cons, ← hnotices, ← List.append_assoc, ← List.map_append] at h6
    rw [List.drop_append_of_le_length h4]
    exact h6

theorem Follows.load (hp : p.Faithful noticeChange Valid) (hf : Follows p noticeChange Valid s)
    {list : List α} (hlist : s.listReceived = some list) :
    Follows p noticeChange Valid { s with
      listReceived := none
      popup := p.loaded list s.popup
      cursor := some s.sent.length } := by
  have hlists : s.lists = list :: (listsIn s.inFlight ++ s.response.toList) := by
    rw [lists, hlist]
    rfl
  cases hf with
  | untaken h1 h2 => exact absurd (hlists.symm.trans h2) (by simp)
  | taken list' old new h1 h2 h3 h4 h5 h6 h7 h8 =>
    obtain ⟨rfl, hnil⟩ := List.cons.inj (hlists.symm.trans h2)
    obtain ⟨hvalid, hperm⟩ := hp.loaded list s.popup h4
    refine .loaded s.sent.length h1 hnil rfl le_rfl hvalid ?_
    show find p.key s.server = _
    rw [find_of_perm h4 hperm, List.drop_length, List.map_nil, List.nil_append]
    show _ = changeAll p.key (find p.key list) (changesOf p s.waiting)
    rw [h5, changesOf_append, changeAll_append, h7.changeAll, h8]
  | loaded cursor h1 h2 => exact absurd (hlists.symm.trans h2) (by simp)

theorem Follows.receive (hp : p.Faithful noticeChange Valid) (hf : Follows p noticeChange Valid s)
    {cursor : ℕ} (hcursor : s.cursor = some cursor) {notice : ν}
    (hnotice : s.sent[cursor]? = some notice) (hfits : p.noticeFits notice s.popup) :
    Follows p noticeChange Valid { s with
      cursor := some (cursor + 1)
      popup := p.changed notice s.popup } := by
  obtain ⟨⟨htaken, hlists, -⟩, hvalid, hserver⟩ := hf.of_cursor hcursor
  obtain ⟨hlt, rfl⟩ := List.getElem?_eq_some_iff.1 hnotice
  obtain ⟨hchanged, hvalid'⟩ := hp.changed _ _ hvalid hfits
  refine .loaded (cursor + 1) htaken hlists rfl hlt hvalid' ?_
  rw [List.drop_eq_getElem_cons hlt, List.map_cons, List.cons_append, changeAll_cons] at hserver
  rw [hchanged.find_eq]
  exact hserver

theorem start_follows (server : List α) : Follows p noticeChange Valid (start p server) :=
  .untaken rfl rfl rfl (by simp [start, waiting, eventsIn]) .nil

variable [DecidableEq α]

/-- What a step that misses nothing keeps. -/
theorem Follows.of_step (hp : p.Faithful noticeChange Valid) (hd : Distinct p.key s.server)
    (hf : Follows p noticeChange Valid s) {a : ListAction α} (hok : StepOk p s a)
    (hstep : step p s a = some s') :
    Distinct p.key s'.server ∧ Follows p noticeChange Valid s' := by
  cases a with
  | occur event =>
    obtain rfl := Option.some.inj hstep
    exact ⟨(find_occur hd event.data).1, hf.occur hd event⟩
  | takeList list =>
    obtain ⟨⟨htaken, hperm⟩, hs'⟩ := Option.ite_none_right_eq_some.1 hstep
    obtain rfl := Option.some.inj hs'
    exact ⟨hd, hf.takeList hd htaken hperm⟩
  | writeEvent =>
    unfold step at hstep
    rcases hevents : s.events with _ | ⟨⟨event, later⟩, events⟩ <;>
      simp only [hevents, reduceCtorEq, Option.some.injEq] at hstep
    obtain rfl := hstep
    exact ⟨hd, hf.of_same rfl rfl (by simp [waiting, hevents, eventsIn])
      (by simp [lists, listsIn]) rfl rfl rfl⟩
  | writeList =>
    unfold step at hstep
    rcases hresponse : s.response with _ | list <;>
      simp only [hresponse, reduceCtorEq, Option.some.injEq] at hstep
    obtain rfl := hstep
    exact ⟨hd, hf.of_same rfl rfl (by simp [waiting, eventsIn])
      (by simp [lists, hresponse, listsIn]) rfl rfl rfl⟩
  | readMessage =>
    unfold step at hstep
    rcases hinFlight : s.inFlight with _ | ⟨⟨event, later⟩ | ⟨list⟩, inFlight⟩ <;>
      simp only [hinFlight, reduceCtorEq, Option.some.injEq] at hstep
    · obtain rfl := hstep
      exact ⟨hd, hf.of_same rfl rfl (by simp [waiting, hinFlight, eventsIn])
        (by simp [lists, hinFlight, listsIn]) rfl rfl rfl⟩
    · obtain rfl := hstep
      exact ⟨hd, hf.readList hinFlight⟩
  | dispatch =>
    unfold step at hstep
    rcases hstream : s.stream with _ | ⟨⟨event, later⟩, stream⟩ <;>
      simp only [hstream, reduceCtorEq, Option.some.injEq] at hstep
    obtain rfl := hstep
    refine ⟨?_, hf.dispatch hp hstream fun hlater => ?_⟩
    · rwa [handleStreamEvent_server]
    · subst hlater
      exact hok event stream hstream
  | load =>
    unfold step at hstep
    rcases hlist : s.listReceived with _ | list <;>
      simp only [hlist, reduceCtorEq, Option.some.injEq] at hstep
    obtain rfl := hstep
    exact ⟨hd, hf.load hp hlist⟩
  | receive =>
    unfold step at hstep
    rcases hcursor : s.cursor with _ | cursor <;> simp only [hcursor, reduceCtorEq] at hstep
    obtain ⟨hnear, hfits⟩ := hok cursor hcursor
    obtain ⟨hlag, -⟩ | ⟨notice, hnotice, hrecv⟩ | ⟨-, hrecv⟩ :=
      broadcastRecv_cases watchCapacity (hf.of_cursor hcursor).1.2.2
    · exact absurd hnear (Nat.not_le.2 hlag)
    · rw [hrecv] at hstep
      obtain rfl := Option.some.inj hstep
      exact ⟨hd, hf.receive hp hcursor hnotice (hfits notice hnotice)⟩
    · rw [hrecv] at hstep
      cases hstep

/-- The popup has the server's list once everything is handled. -/
theorem run_follows (hp : p.Faithful noticeChange Valid) {server : List α}
    (hd : Distinct p.key server) {actions : List (ListAction α)}
    (hok : AlongRun (step p) (StepOk p) (start p server) actions)
    (hrun : runSteps (step p) (start p server) actions = some s) (hhandled : s.Handled) :
    (p.things s.popup).Perm s.server := by
  have hkeeps : ∀ s a s', Distinct p.key s.server ∧ Follows p noticeChange Valid s → StepOk p s a →
      step p s a = some s' → Distinct p.key s'.server ∧ Follows p noticeChange Valid s' :=
    fun s a s' hs hok hstep => hs.2.of_step hp hs.1 hok hstep
  obtain ⟨hserver, hf⟩ := runSteps_keeps_along hkeeps ⟨hd, start_follows server⟩ hok hrun
  have hwaiting : s.waiting = [] := by
    simp [waiting, hhandled.events, hhandled.inFlight, hhandled.stream, eventsIn]
  obtain ⟨-, hvalid, hfind⟩ := hf.of_cursor hhandled.loaded
  rw [hwaiting, List.drop_length] at hfind
  exact perm_of_find hserver (hp.distinct _ hvalid) hfind.symm

end Follows

end ListSession

/-! ## The popups -/

section Popups

open ListSession

theorem usersPopup_faithful (toLowercase : Char → List Char)
    (sort : UnstableSort (Str × UserRole)) :
    (usersPopup toLowercase sort).Faithful
      (fun notice => UsersController.noticeChange notice.1 notice.2.1 notice.2.2)
      (Distinct Prod.fst) where
  distinct _ h := h
  loaded _ _ h := ⟨h.of_perm (sort.perm _ _), sort.perm _ _⟩
  changed notice _ h _ := by
    have hchanged :=
      UsersController.userChanged_changed toLowercase h notice.1 notice.2.1 notice.2.2
    exact ⟨hchanged, hchanged.distinct⟩
  watched receivers data hreceivers := by
    cases data <;> simp [handleStreamEvent, usersPopup, hreceivers] <;> rfl

theorem socketsPopup_faithful (socketType : SocketPopupType) (sort : UnstableSort SocketAddr) :
    (socketsPopup socketType sort).Faithful
      (fun notice => SocketsController.noticeChange notice.1 notice.2)
      SocketsController.Valid where
  distinct _ h := h.distinct
  loaded _ inner h := ⟨SocketsController.socketsLoaded_valid sort inner h, sort.perm _ _⟩
  changed _ _ h hfits := SocketsController.socketChanged_changed h hfits
  watched receivers data hreceivers := by
    cases socketType <;> cases data <;> simp [handleStreamEvent, socketsPopup, hreceivers] <;> rfl

/-- Once everything is handled the popups hold what the server's lists do, if in no step a
notification from after the list was taken is handed on to no receiver, the receiver lags or a
socket is taken for another one. -/
theorem popups_follow (toLowercase : Char → List Char) (sortUsers : UnstableSort (Str × UserRole))
    (sort : UnstableSort SocketAddr) :
    (∀ (server : List (Str × UserRole)) (actions : List (ListAction (Str × UserRole)))
      (s : ListSession (Str × UserRole) (UserNotificationType × Str × UserRole) UsersController),
      Distinct Prod.fst server →
      AlongRun (step (usersPopup toLowercase sortUsers)) (StepOk (usersPopup toLowercase sortUsers))
        (start (usersPopup toLowercase sortUsers) server) actions →
      runSteps (step (usersPopup toLowercase sortUsers))
        (start (usersPopup toLowercase sortUsers) server) actions = some s →
      s.Handled → s.popup.users.Perm s.server)
    ∧ ∀ (socketType : SocketPopupType) (server : List SocketAddr)
      (actions : List (ListAction SocketAddr))
      (s : ListSession SocketAddr (SocketAddr × Bool) SocketsController),
      server.Nodup →
      AlongRun (step (socketsPopup socketType sort)) (StepOk (socketsPopup socketType sort))
        (start (socketsPopup socketType sort) server) actions →
      runSteps (step (socketsPopup socketType sort)) (start (socketsPopup socketType sort) server)
        actions = some s →
      s.Handled → s.popup.sockets.Perm s.server := by
  refine ⟨fun server actions s hd hok hrun hhandled => ?_,
    fun socketType server actions s hnodup hok hrun hhandled => ?_⟩
  · exact run_follows (usersPopup_faithful toLowercase sortUsers) hd hok hrun hhandled
  · have hd : Distinct id server := by rwa [Distinct, List.map_id]
    exact run_follows (socketsPopup_faithful socketType sort) hd hok hrun hhandled

def someSocket : SocketAddr := .v4 ⟨⟨0⟩, 1080⟩

/-- The sockets that the popup shows after it has loaded no sockets. -/
def noSockets : SocketsController := SocketsController.new.socketsLoaded (.mergeSort _) []

theorem not_mem_noSockets (x : SocketAddr) : x ∉ noSockets.sockets := fun hx =>
  nomatch ((UnstableSort.mergeSort SocketAddr).perm socketSortCmp []).mem_iff.1 hx

/-- The socket is opened after the list is taken, and its event comes after the list. -/
def listThenSocket : List (ListAction SocketAddr) :=
  [.takeList [], .writeList, .readMessage, .load, .occur ⟨0, .newSocks5Socket someSocket⟩,
    .writeEvent, .readMessage, .dispatch, .receive]

def ana (role : UserRole) : Str × UserRole := ("ana".toList, role)

def anaUpdated : Event := ⟨0, .userUpdatedByManager 1 "ana".toList .regular false⟩

def plainUsersPopup : ListPopup Str (Str × UserRole) (UserNotificationType × Str × UserRole)
    UsersController := usersPopup (fun c => [c]) (.mergeSort _)

/-- The users that the popup shows after it has loaded one. -/
def oneUser : UsersController :=
  UsersController.new.usersLoaded (fun c => [c]) (.mergeSort _) [ana .admin]

/-- The user is updated after the list is taken, and the event comes after the list. -/
def listThenUser : List (ListAction (Str × UserRole)) :=
  [.takeList [ana .admin], .writeList, .readMessage, .load, .occur anaUpdated, .writeEvent,
    .readMessage, .dispatch, .receive]

theorem popups_follow_listThenSocket :
    (∃ s, runSteps (step (socketsPopup .socks5 (.mergeSort _)))
        (start (socketsPopup .socks5 (.mergeSort _)) []) listThenSocket = some s
      ∧ s.server = [someSocket] ∧ s.popup.sockets.Perm [someSocket])
    ∧ ∃ s, runSteps (step plainUsersPopup) (start plainUsersPopup [ana .admin]) listThenUser
        = some s
      ∧ s.server = [ana .regular] ∧ s.popup.users.Perm [ana .regular] := by
  have hsocket : AlongRun (step (socketsPopup .socks5 (.mergeSort _)))
      (StepOk (socketsPopup .socks5 (.mergeSort _)))
      (start (socketsPopup .socks5 (.mergeSort _)) []) listThenSocket := by
    refine .cons trivial rfl <| .cons trivial rfl <| .cons trivial rfl <|
      .cons trivial (show _ = some ⟨[], true, [], none, [], [], none, [], some 0, noSockets⟩
        from rfl) <|
      .cons trivial rfl <| .cons trivial rfl <|
      .cons trivial (show _ = some ⟨[someSocket], true, [], none, [],
        [(⟨0, .newSocks5Socket someSocket⟩, true)], none, [], some 0, noSockets⟩ from rfl) <|
      .cons ?_ (show _ = some ⟨[someSocket], true, [], none, [], [], none,
        [(someSocket, true)], some 0, noSockets⟩ from rfl) <|
      .cons ?_ rfl trivial
    · rintro _ _ - - ⟨⟩
    · rintro _ ⟨⟩
      exact ⟨by decide, fun _ _ x hx => absurd hx (not_mem_noSockets x)⟩
  have huser : AlongRun (step plainUsersPopup) (StepOk plainUsersPopup)
      (start plainUsersPopup [ana .admin]) listThenUser := by
    refine .cons trivial rfl <| .cons trivial rfl <| .cons trivial rfl <|
      .cons trivial (show _ = some ⟨[ana .admin], true, [], none, [], [], none, [], some 0,
        oneUser⟩ from rfl) <|
      .cons trivial rfl <| .cons trivial rfl <|
      .cons trivial (show _ = some ⟨[ana .regular], true, [], none, [], [(anaUpdated, true)], none,
        [], some 0, oneUser⟩ from rfl) <|
      .cons ?_ (show _ = some ⟨[ana .regular], true, [], none, [], [], none,
        [(.updated, ana .regular)], some 0, oneUser⟩ from rfl) <|
      .cons ?_ rfl trivial
    · rintro _ _ - - ⟨⟩
    · rintro _ ⟨⟩
      exact ⟨by decide, fun _ _ => trivial⟩
  obtain ⟨husers, hsockets⟩ := popups_follow (fun c => [c]) (.mergeSort _) (.mergeSort _)
  refine ⟨⟨⟨[someSocket], true, [], none, [], [], none, [(someSocket, true)], some 1,
    noSockets.socketChanged someSocket true⟩, rfl, rfl, ?_⟩, ⟨[ana .regular], true, [], none, [],
    [], none, [(.updated, ana .regular)], some 1,
    oneUser.userChanged (fun c => [c]) .updated "ana".toList .regular⟩, rfl, rfl, ?_⟩
  · exact hsockets .socks5 [] listThenSocket _ List.nodup_nil hsocket rfl ⟨rfl, rfl, rfl, rfl⟩
  · exact husers [ana .admin] listThenUser _ (List.nodup_singleton _) huser rfl
      ⟨rfl, rfl, rfl, rfl⟩

/-- The socket is opened after the list is taken, and its event is written before the list. -/
def socketBeforeList : List (ListAction SocketAddr) :=
  [.takeList [], .occur ⟨0, .newSocks5Socket someSocket⟩, .writeEvent, .readMessage, .dispatch,
    .writeList, .readMessage, .load]

/-- The popup does not learn of it. -/
theorem popups_miss_socketBeforeList :
    ∃ s, runSteps (step (socketsPopup .socks5 (.mergeSort _)))
        (start (socketsPopup .socks5 (.mergeSort _)) []) socketBeforeList = some s
      ∧ s.Handled ∧ ¬ s.popup.sockets.Perm s.server := by
  refine ⟨⟨[someSocket], true, [], none, [], [], none, [], some 0, noSockets⟩, rfl,
    ⟨rfl, rfl, rfl, rfl⟩, fun hperm => ?_⟩
  exact not_mem_noSockets someSocket (hperm.mem_iff.2 List.mem_cons_self)

end Popups

end DustDevil
