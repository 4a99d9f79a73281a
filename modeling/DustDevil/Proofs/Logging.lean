import DustDevil.Core.Logging
import DustDevil.Proofs.Serialize

/-!
# Events on the wire

Every event that can be written reads back as itself, up to the kinds of its `io::Error`s, and
leaves what follows it unread (`event_reads_back`). The two matches over the tags are compared a
shape of event at a time.
-/

namespace DustDevil

open Wire ByteRead ByteWrite

section Shapes

/-- An identifier, a number of bytes or a length, as its source type has it. -/
def FitsU64 (n : ℕ) : Prop := n < 2 ^ 64

def FitsStr (s : Str) : Prop := (utf8 s).length ≤ 65535

def FitsSmallStr (s : Str) : Prop := (utf8 s).length ≤ 255

def FitsIoError (e : IoError) : Prop := FitsStr e.message

/-- `P` of the value and `Q` of the error. -/
def FitsResult {ε α : Type} (P : α → Prop) (Q : ε → Prop) : Except ε α → Prop
  | .ok a => P a
  | .error e => Q e

def resultStored {ε α : Type} (stored : ε → ε) (result : Except ε α) : Except ε α :=
  result.mapError stored

theorem carries_optionAddr (address : Option SocketAddr) :
    Carries (write address) read address := by
  cases address with
  | none => exact carries_none
  | some address => exact carries_some (carries_socketAddr address)

theorem carries_unitResult {result : Except IoError Unit}
    (h : FitsResult (fun _ => True) FitsIoError result) :
    Carries (write result) read (resultStored ioErrorStored result) := by
  cases result with
  | ok _ => exact carries_ok carries_unit
  | error e => exact carries_error (carries_ioError h)

/-- The number of a successful result, and whatever its error carries. -/
theorem carries_countResult {ε : Type} [ByteWrite ε] [ByteRead ε] {stored : ε → ε} {Q : ε → Prop}
    (hε : ∀ e, Q e → Carries (write e) read (stored e)) {result : Except ε ℕ}
    (h : FitsResult FitsU64 Q result) {α : Type} (f : Except ε ℕ → α) :
    Carries (write (result.map UInt64.ofNat))
      (read >>= fun result : Except ε UInt64 => pure (f (result.map UInt64.toNat)))
      (f (resultStored stored result)) := by
  cases result with
  | ok n =>
    refine (carries_ok (carries_u64 _)).bind_pure ?_
    show pure (f (.ok (UInt64.ofNat n).toNat)) = _
    rw [UInt64.toNat_ofNat', Nat.mod_eq_of_lt h]
    rfl
  | error e => exact (carries_error (hε e h)).bind_pure rfl

end Shapes

namespace EventData

/-- The strings fit their length prefixes, and the numbers are those of their source types. -/
def Fits : EventData → Prop
  | newSocks5Socket _ | failedBindAnySocketAborting | removedSocks5Socket _ | newSandstormSocket _
  | removedSandstormSocket _ | shutdownSignalReceived => True
  | failedBindSocks5Socket _ e | failedBindSandstormSocket _ e
  | clientConnectionAcceptFailed _ e | sandstormConnectionAcceptFailed _ e => FitsIoError e
  | loadingUsersFromFile s | startingUpWithSingleDefaultUser s | savingUsersToFile s => FitsStr s
  | usersLoadedFromFile s result => FitsStr s ∧ FitsResult FitsU64 UsersLoadingError.Fits result
  | usersSavedToFile s result => FitsStr s ∧ FitsResult FitsU64 FitsIoError result
  | userRegisteredByArgs s _ | userReplacedByArgs s _ => FitsSmallStr s
  | newClientConnectionAccepted id _ | clientRequestedUnsupportedVersion id _
  | clientRequestedUnsupportedCommand id _ | clientRequestedUnsupportedAtyp id _
  | clientSelectedAuthMethod id _ | clientNoAcceptableAuthMethod id
  | clientRequestedUnsupportedUserpassVersion id _ | clientAttemptingConnect id _
  | clientFailedToConnectToDestination id | clientConnectedToDestination id _
  | clientSourceShutdown id | clientDestinationShutdown id | newSandstormConnectionAccepted id _
  | sandstormRequestedUnsupportedVersion id _ | newSocksSocketRequestedByManager id _
  | removeSocksSocketRequestedByManager id _ | newSandstormSocketRequestedByManager id _
  | removeSandstormSocketRequestedByManager id _ | authMethodToggledByManager id _ _
  | bufferSizeChangedByManager id _ | sandstormRequestedShutdown id => FitsU64 id
  | clientAuthenticatedWithUserpass id s _ | clientDnsLookup id s => FitsU64 id ∧ FitsSmallStr s
  | clientSocksRequest id request => FitsU64 id ∧ request.Fits
  | clientConnectionAttemptBindFailed id e | clientConnectionAttemptConnectFailed id e =>
    FitsU64 id ∧ FitsIoError e
  | clientBytesSent id count | clientBytesReceived id count => FitsU64 id ∧ FitsU64 count
  | clientConnectionFinished id bytesSent bytesReceived result =>
    FitsU64 id ∧ FitsU64 bytesSent ∧ FitsU64 bytesReceived
      ∧ FitsResult (fun _ => True) FitsIoError result
  | sandstormAuthenticatedAs id s _ | userRegisteredByManager id s _ | userUpdatedByManager id s _ _
  | userDeletedByManager id s _ => FitsU64 id ∧ FitsStr s
  | sandstormConnectionFinished id result =>
    FitsU64 id ∧ FitsResult (fun _ => True) FitsIoError result

/-- The event with its errors as the codec stores them. -/
def stored : EventData → EventData
  | failedBindSocks5Socket address e => failedBindSocks5Socket address (ioErrorStored e)
  | failedBindSandstormSocket address e => failedBindSandstormSocket address (ioErrorStored e)
  | usersLoadedFromFile filename result =>
    usersLoadedFromFile filename (resultStored UsersLoadingError.stored result)
  | usersSavedToFile filename result =>
    usersSavedToFile filename (resultStored ioErrorStored result)
  | clientConnectionAcceptFailed address e =>
    clientConnectionAcceptFailed address (ioErrorStored e)
  | clientConnectionAttemptBindFailed id e =>
    clientConnectionAttemptBindFailed id (ioErrorStored e)
  | clientConnectionAttemptConnectFailed id e =>
    clientConnectionAttemptConnectFailed id (ioErrorStored e)
  | clientConnectionFinished id bytesSent bytesReceived result =>
    clientConnectionFinished id bytesSent bytesReceived (resultStored ioErrorStored result)
  | sandstormConnectionAcceptFailed address e =>
    sandstormConnectionAcceptFailed address (ioErrorStored e)
  | sandstormConnectionFinished id result =>
    sandstormConnectionFinished id (resultStored ioErrorStored result)
  | data => data

end EventData

theorem carries_eventData {data : EventData} (h : data.Fits) :
    Carries (write data) read data.stored := by
  cases data with
  | failedBindAnySocketAborting | shutdownSignalReceived => exact (carries_u8 _).bind_pure rfl
  | newSocks5Socket address | removedSocks5Socket address | newSandstormSocket address
  | removedSandstormSocket address =>
    exact (carries_u8 _).bind ((carries_socketAddr address).map _)
  | failedBindSocks5Socket address e | failedBindSandstormSocket address e =>
    exact (carries_u8 _).bind ((carries_socketAddr address).bind ((carries_ioError h).map _))
  | clientConnectionAcceptFailed address e | sandstormConnectionAcceptFailed address e =>
    exact (carries_u8 _).bind ((carries_optionAddr address).bind ((carries_ioError h).map _))
  | loadingUsersFromFile | startingUpWithSingleDefaultUser | savingUsersToFile =>
    exact (carries_u8 _).bind ((carries_str h).map _)
  | usersLoadedFromFile filename result =>
    exact (carries_u8 _).bind ((carries_str h.1).bind
      (carries_countResult (fun _ => carries_usersLoadingError) h.2 _))
  | usersSavedToFile filename result =>
    exact (carries_u8 _).bind ((carries_str h.1).bind
      (carries_countResult (fun _ => carries_ioError) h.2 _))
  | userRegisteredByArgs username role | userReplacedByArgs username role =>
    exact (carries_u8 _).bind ((carries_smallString h).bind ((carries_userRole role).map _))
  | newClientConnectionAccepted id address | clientAttemptingConnect id address
  | clientConnectedToDestination id address | newSandstormConnectionAccepted id address
  | newSocksSocketRequestedByManager id address | removeSocksSocketRequestedByManager id address
  | newSandstormSocketRequestedByManager id address
  | removeSandstormSocketRequestedByManager id address =>
    exact (carries_u8 _).bind ((carries_nat64 h).bind ((carries_socketAddr address).map _))
  | clientRequestedUnsupportedVersion id b | clientRequestedUnsupportedCommand id b
  | clientRequestedUnsupportedAtyp id b | clientRequestedUnsupportedUserpassVersion id b
  | sandstormRequestedUnsupportedVersion id b =>
    exact (carries_u8 _).bind ((carries_nat64 h).bind ((carries_u8 b).map _))
  | clientSelectedAuthMethod id authMethod =>
    exact (carries_u8 _).bind ((carries_nat64 h).bind ((carries_authMethod authMethod).map _))
  | clientNoAcceptableAuthMethod | clientFailedToConnectToDestination | clientSourceShutdown
  | clientDestinationShutdown | sandstormRequestedShutdown =>
    exact (carries_u8 _).bind ((carries_nat64 h).map _)
  | clientAuthenticatedWithUserpass id username success =>
    exact (carries_u8 _).bind ((carries_nat64 h.1).bind ((carries_smallString h.2).bind
      ((carries_bool success).map _)))
  | clientSocksRequest id request =>
    exact (carries_u8 _).bind ((carries_nat64 h.1).bind ((carries_socksRequest h.2).map _))
  | clientDnsLookup id domainname =>
    exact (carries_u8 _).bind ((carries_nat64 h.1).bind ((carries_smallString h.2).map _))
  | clientConnectionAttemptBindFailed id e | clientConnectionAttemptConnectFailed id e =>
    exact (carries_u8 _).bind ((carries_nat64 h.1).bind ((carries_ioError h.2).map _))
  | clientBytesSent id count | clientBytesReceived id count =>
    exact (carries_u8 _).bind ((carries_nat64 h.1).bind ((carries_nat64 h.2).map _))
  | clientConnectionFinished id bytesSent bytesReceived result =>
    obtain ⟨hid, hsent, hreceived, hresult⟩ := h
    exact (carries_u8 _).bind ((carries_nat64 hid).bind ((carries_nat64 hsent).bind
      ((carries_nat64 hreceived).bind ((carries_unitResult hresult).map _))))
  | sandstormAuthenticatedAs id username success =>
    exact (carries_u8 _).bind ((carries_nat64 h.1).bind ((carries_str h.2).bind
      ((carries_bool success).map _)))
  | userRegisteredByManager id username role | userDeletedByManager id username role =>
    exact (carries_u8 _).bind ((carries_nat64 h.1).bind ((carries_str h.2).bind
      ((carries_userRole role).map _)))
  | userUpdatedByManager id username role hasPassword =>
    exact (carries_u8 _).bind ((carries_nat64 h.1).bind ((carries_str h.2).bind
      ((carries_userRole role).bind ((carries_bool hasPassword).map _))))
  | authMethodToggledByManager id authMethod state =>
    exact (carries_u8 _).bind ((carries_nat64 h).bind ((carries_authMethod authMethod).bind
      ((carries_bool state).map _)))
  | bufferSizeChangedByManager id bufferSize =>
    exact (carries_u8 _).bind ((carries_nat64 h).bind ((carries_u32 bufferSize).map _))
  | sandstormConnectionFinished id result =>
    exact (carries_u8 _).bind ((carries_nat64 h.1).bind ((carries_unitResult h.2).map _))

namespace Event

def Fits (event : Event) : Prop := event.data.Fits

def stored (event : Event) : Event := ⟨event.timestamp, event.data.stored⟩

end Event

theorem carries_event {event : Event} (h : event.Fits) :
    Carries (write event) read event.stored :=
  (carries_i64 _).bind ((carries_eventData h).map _)

/-- An event's bytes, on any reader and whatever follows them, read back as the event and leave
exactly what follows. -/
theorem event_roundTrips {event : Event} (h : event.Fits) (rest : List UInt8) :
    RoundTrips (write event) read event.stored rest :=
  (carries_event h).roundTrips ByteRead.refines rest

/-- A connection to an unreachable host, which is not a kind of error that the codec has. -/
def unreachableEvent : Event :=
  ⟨1700000000, .clientConnectionAttemptConnectFailed 7 ⟨.hostUnreachable, ['n', 'o']⟩⟩

theorem event_roundTrips_unreachableEvent :
    RoundTrips (write unreachableEvent) read
      (⟨1700000000, .clientConnectionAttemptConnectFailed 7 ⟨.other, ['n', 'o']⟩⟩ : Event)
      [0x2A] := by
  have hid : FitsU64 7 := by
    unfold FitsU64
    decide
  have hmessage : FitsStr ['n', 'o'] := by
    unfold FitsStr
    decide
  exact event_roundTrips (show unreachableEvent.Fits from ⟨hid, hmessage⟩) [0x2A]

end DustDevil
