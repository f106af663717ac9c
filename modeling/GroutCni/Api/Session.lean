import GroutCni.Api.Server

/-!
# Sessions

A session is a sequence of calls of the methods of the client.  Over every session with a
`Server` the two stay in step: each call reads the answers to its own requests and nothing else
(`session_inStep`).
-/

namespace GroutCni

open Effect Wire

/-! ### The methods -/

/-- The error is that of a response to another request, perhaps wrapped. -/
def GoError.IsMismatch : GoError → Prop
  | .other _ => False
  | .errorf format _ => format = "response ID mismatch: got %d, want %d"
  | .wrapf _ _ err => err.IsMismatch

/-- If the call failed, then not because of a response to another request. -/
def NoMismatch {α : Type} (r : Except GoError α) : Prop :=
  ∀ err, r = .error err → ¬err.IsMismatch

theorem noMismatch_ok {α : Type} (a : α) :
  NoMismatch (.ok a)
  := by
  intro err h
  cases h

theorem noMismatch_errorf {α : Type} {format : String} (args : List FmtArg)
    (h : format ≠ "response ID mismatch: got %d, want %d") :
  NoMismatch (.error (.errorf format args) : Except GoError α)
  := by
  intro err heq
  cases heq
  exact h

theorem NoMismatch.wrapf {α β : Type} {err : GoError}
    (h : NoMismatch (.error err : Except GoError α)) (format : String) (args : List FmtArg) :
  NoMismatch (.error (.wrapf format args err) : Except GoError β)
  := by
  intro err' heq
  cases heq
  exact h err rfl

theorem noMismatch_other {α : Type} (text : String) :
  NoMismatch (.error (.other text) : Except GoError α)
  := by
  intro err heq
  cases heq
  exact id

theorem noMismatch_readFull (n : Nat) (b : Bytes) :
  NoMismatch (readFull n b).1
  := by
  unfold readFull
  split
  · apply noMismatch_ok
  · split
    · apply noMismatch_other
    · apply noMismatch_other

theorem noMismatch_read (resp : Resp) (payload : Bytes) :
  NoMismatch (resp.read payload)
  := by
  cases resp with
  | nil => apply noMismatch_ok
  | ifaceID =>
      have hread := noMismatch_readFull 2 payload
      dsimp only [Resp.read]
      split
      case h_1 err rest heq =>
        rw [heq] at hread
        exact fun err' h => hread err' (by cases h; rfl)
      case h_2 => apply noMismatch_ok

/-- An answer is not an answer to another request. -/
theorem noMismatch_outcome (o : Api.RpcOp) (a : Answer) :
  NoMismatch (outcome o a)
  := by
  cases o with
  | request type payload resp =>
      cases a with
      | list a => apply noMismatch_other
      | plain a =>
          show NoMismatch (a.outcome resp)
          unfold PlainAnswer.outcome Resp.decode
          split
          case isTrue => exact noMismatch_errorf _ (by decide)
          case isFalse =>
            split
            case isTrue =>
              split
              case h_1 err hread =>
                apply NoMismatch.wrapf
                rw [← hread]
                apply noMismatch_read
              case h_2 => apply noMismatch_ok
            case isFalse => apply noMismatch_ok
  | requestStream type payload =>
      cases a with
      | plain a => apply noMismatch_other
      | list a =>
          show NoMismatch a.outcome
          unfold ListAnswer.outcome
          split
          · apply noMismatch_ok
          · exact noMismatch_errorf _ (by decide)

/-- The method sends proper requests, and if none of them fails because of a response to
another request then neither does the method. -/
def IsMethod {α : Type} (p : Api.ClientProg (Except GoError α)) : Prop :=
  p.Meets Proper (fun _ r => NoMismatch r) NoMismatch

section

open Api

variable {α β : Type} {type : UInt32} {payload : Bytes}

theorem isMethod_request {resp : Resp} (hlen : payload.length < 2 ^ 32)
    (htype : isListType type = false) :
  IsMethod (Api.request type payload resp)
  := ⟨⟨hlen, htype⟩, fun _ hr => hr⟩

theorem isMethod_requestStream (hlen : payload.length < 2 ^ 32)
    (htype : isListType type = true) :
  IsMethod (Api.requestStream type payload)
  := ⟨⟨hlen, htype⟩, fun _ hr => hr⟩

theorem isMethod_ret {r : Except GoError α} (h : NoMismatch r) :
  IsMethod (pure r)
  := h

theorem isMethod_ok (a : α) :
  IsMethod (pure (.ok a))
  := isMethod_ret (noMismatch_ok a)

/-- A method may go on in one way after an error, and in another after a success. -/
theorem IsMethod.bind {p : ClientProg (Except GoError α)}
    {f : Except GoError α → ClientProg (Except GoError β)} (hp : IsMethod p)
    (herr : ∀ err, NoMismatch (.error err : Except GoError α) → IsMethod (f (.error err)))
    (hok : ∀ a, IsMethod (f (.ok a))) :
  IsMethod (p >>= f)
  := by
  apply Program.Meets.bind hp
  intro r hr
  cases r with
  | error err => exact herr err hr
  | ok a => exact hok a

theorem isMethod_requestNil {format : String} {args : List FmtArg}
    (hlen : payload.length < 2 ^ 32) (htype : isListType type = false) :
  IsMethod (requestNil type payload format args)
  := by
  have hreq : @IsMethod Unit (Api.request type payload .nil) := isMethod_request hlen htype
  apply hreq.bind
  · intro err h
    exact isMethod_ret (h.wrapf format args)
  · intro a
    apply isMethod_ok

theorem length_fill_lt {n : Nat} (fs : List Field) (h : n < 2 ^ 32) :
  (fill n fs).length < 2 ^ 32
  := by
  rw [length_fill]
  exact h

theorem isMethod_hello :
  IsMethod Api.hello
  := isMethod_request (length_fill_lt _ (by decide)) rfl

theorem isMethod_interfaceList (req : InterfaceListRequest) :
  IsMethod (Api.interfaceList req)
  := by
  apply IsMethod.bind (isMethod_requestStream (by simp) rfl)
  · intro err h
    exact isMethod_ret (h.wrapf _ _)
  · intro items
    apply isMethod_ok

theorem noMismatch_putL3AddrIPv4 (off : Nat) (ip : IP) :
  NoMismatch (putL3AddrIPv4 off ip)
  := by
  unfold putL3AddrIPv4
  split
  · exact noMismatch_errorf _ (by decide)
  · apply noMismatch_ok

theorem noMismatch_infoFields (req : InterfaceAddRequest) :
  NoMismatch (infoFields req)
  := by
  unfold infoFields
  split
  case isTrue => apply noMismatch_ok
  case isFalse =>
    split
    case isTrue =>
      unfold vxlanFields
      split
      case h_1 => exact noMismatch_errorf _ (by decide)
      case h_2 vxlan _ =>
        split
        case h_1 err herr =>
          apply NoMismatch.wrapf
          rw [← herr]
          apply noMismatch_putL3AddrIPv4
        case h_2 => apply noMismatch_ok
    case isFalse =>
      unfold portFields
      split
      · exact noMismatch_errorf _ (by decide)
      · apply noMismatch_ok

theorem infoSize_lt (type : InterfaceType) :
  ifaceSize + infoSize type < 2 ^ 32
  := by
  unfold infoSize
  split
  · decide
  · split
    · decide
    · decide

theorem isMethod_interfaceAdd (req : InterfaceAddRequest) :
  IsMethod (Api.interfaceAdd req)
  := by
  unfold Api.interfaceAdd interfaceAddPayload
  have hinfo := noMismatch_infoFields req
  cases hfields : infoFields req with
  | error err =>
      rw [hfields] at hinfo
      exact isMethod_ret fun err' h => hinfo err' (by cases h; rfl)
  | ok info =>
      have hreq : @IsMethod UInt16 (Api.request typeIfaceAdd
          (fill (ifaceSize + infoSize req.type) (ifaceFields req ++ info)) .ifaceID) :=
        isMethod_request (length_fill_lt _ (infoSize_lt _)) rfl
      apply hreq.bind
      · intro err h
        exact isMethod_ret (h.wrapf _ _)
      · intro a
        apply isMethod_ok

theorem isMethod_interfaceDel (ifaceID : UInt16) :
  IsMethod (Api.interfaceDel ifaceID)
  := isMethod_requestNil (length_fill_lt _ (by decide)) rfl

theorem isMethod_addressRequest {type4 type6 : UInt32} {ifaceID : UInt16} {address : IPNet}
    {ok : Bool} {format invalid : String} (h4 : isListType type4 = false)
    (h6 : isListType type6 = false)
    (hinvalid : invalid ≠ "response ID mismatch: got %d, want %d") :
  IsMethod (addressRequest type4 type6 ifaceID address ok format invalid)
  := by
  unfold addressRequest
  dsimp only
  split
  · exact isMethod_requestNil (length_fill_lt _ (by decide)) h4
  · split
    · exact isMethod_ret (noMismatch_errorf _ hinvalid)
    · exact isMethod_requestNil (length_fill_lt _ (by decide)) h6

theorem isMethod_addressFlush (ifaceID : UInt16) :
  IsMethod (Api.addressFlush ifaceID)
  := by
  have h4 : IsMethod (ip4AddrFlush ifaceID) :=
    isMethod_request (length_fill_lt _ (by decide)) rfl
  have h6 : IsMethod (ip6AddrFlush ifaceID) :=
    isMethod_request (length_fill_lt _ (by decide)) rfl
  apply h4.bind
  · intro err h
    exact isMethod_ret (h.wrapf _ _)
  · intro a
    apply h6.bind
    · intro err h
      exact isMethod_ret (h.wrapf _ _)
    · intro b
      apply isMethod_ok

theorem isMethod_routeAdd (req : RouteAddRequest) :
  IsMethod (routeAdd req)
  := by
  unfold routeAdd
  dsimp only
  split
  · split
    · exact isMethod_ret (noMismatch_errorf _ (by decide))
    · exact isMethod_requestNil (length_fill_lt _ (by decide)) rfl
  · split
    · exact isMethod_ret (noMismatch_errorf _ (by decide))
    · split
      · exact isMethod_ret (noMismatch_errorf _ (by decide))
      · exact isMethod_requestNil (length_fill_lt _ (by decide)) rfl

theorem isMethod_routeDel (req : RouteDelRequest) :
  IsMethod (routeDel req)
  := by
  unfold routeDel
  dsimp only
  split
  · exact isMethod_requestNil (length_fill_lt _ (by decide)) rfl
  · split
    · exact isMethod_ret (noMismatch_errorf _ (by decide))
    · exact isMethod_requestNil (length_fill_lt _ (by decide)) rfl

theorem isMethod_floodRequest {vrfID : UInt16} {vni : UInt32} {addr : IP} {ok : Bool}
    {format : String} (htype : isListType type = false) :
  IsMethod (floodRequest type vrfID vni addr ok format)
  := by
  unfold floodRequest encodeFloodEntry
  dsimp only
  have hput := noMismatch_putL3AddrIPv4 offFloodVTEPAddr addr
  cases hfields : putL3AddrIPv4 offFloodVTEPAddr addr with
  | error err =>
      rw [hfields] at hput
      exact isMethod_ret (hput.wrapf _ _)
  | ok fields => exact isMethod_requestNil (length_fill_lt _ (by decide)) htype

theorem isMethod_floodList (req : FloodListRequest) :
  IsMethod (floodList req)
  := by
  apply IsMethod.bind (isMethod_requestStream (length_fill_lt _ (by decide)) rfl)
  · intro err h
    exact isMethod_ret (h.wrapf _ _)
  · intro items
    apply isMethod_ok

end

/-! ### Sessions -/

/-- A call of a method. -/
inductive ClientCall where
  | hello
  | interfaceList (req : InterfaceListRequest)
  | interfaceAdd (req : InterfaceAddRequest)
  | interfaceDel (ifaceID : UInt16)
  | addressAdd (req : AddressAddRequest)
  | addressDel (req : AddressDelRequest)
  | addressFlush (ifaceID : UInt16)
  | routeAdd (req : RouteAddRequest)
  | routeDel (req : RouteDelRequest)
  | floodAdd (req : FloodAddRequest)
  | floodDel (req : FloodDelRequest)
  | floodList (req : FloodListRequest)

namespace ClientCall

/-- The value a call returns when it succeeds. -/
def Val : ClientCall → Type
  | .interfaceList _ => List InterfaceInfo
  | .interfaceAdd _ => UInt16
  | .floodList _ => List FloodVTEPInfo
  | _ => Unit

/-- The method of a call. -/
def program : (call : ClientCall) → Api.ClientProg (Except GoError call.Val)
  | .hello => Api.hello
  | .interfaceList req => Api.interfaceList req
  | .interfaceAdd req => Api.interfaceAdd req
  | .interfaceDel ifaceID => Api.interfaceDel ifaceID
  | .addressAdd req => Api.addressAdd req
  | .addressDel req => Api.addressDel req
  | .addressFlush ifaceID => Api.addressFlush ifaceID
  | .routeAdd req => Api.routeAdd req
  | .routeDel req => Api.routeDel req
  | .floodAdd req => Api.floodAdd req
  | .floodDel req => Api.floodDel req
  | .floodList req => Api.floodList req

end ClientCall

namespace Client

variable {σ : Type}

/-- A call of a method over a connection. -/
def call (P : Peer σ) (c : Client σ) (call : ClientCall) : Except GoError call.Val × Client σ :=
  call.program.interp (handler P) c

/-- The client after a sequence of calls. -/
def session (P : Peer σ) (c : Client σ) (calls : List ClientCall) : Client σ :=
  calls.foldl (fun c call => (c.call P call).2) c

end Client

namespace Server

variable {σ : Type} (srv : Server σ)

/-- A call of a method on the server itself. -/
def call (t : Rpc σ) (call : ClientCall) : Except GoError call.Val × Rpc σ :=
  call.program.interp srv.rpc t

/-- The server after a sequence of calls. -/
def session (t : Rpc σ) (calls : List ClientCall) : Rpc σ :=
  calls.foldl (fun t call => (srv.call t call).2) t

end Server


/-- Every call is that of a method. -/
theorem isMethod_program (call : ClientCall) :
  IsMethod call.program
  := by
  cases call with
  | hello => exact isMethod_hello
  | interfaceList req => exact isMethod_interfaceList req
  | interfaceAdd req => exact isMethod_interfaceAdd req
  | interfaceDel ifaceID => exact isMethod_interfaceDel ifaceID
  | addressAdd req => exact isMethod_addressRequest rfl rfl (by decide)
  | addressDel req => exact isMethod_addressRequest rfl rfl (by decide)
  | addressFlush ifaceID => exact isMethod_addressFlush ifaceID
  | routeAdd req => exact isMethod_routeAdd req
  | routeDel req => exact isMethod_routeDel req
  | floodAdd req => exact isMethod_floodRequest rfl
  | floodDel req => exact isMethod_floodRequest rfl
  | floodList req => exact isMethod_floodList req

section

variable {σ : Type} {srv : Server σ}

/-- In step, a call returns what the server answers to its requests, and the client stays in
step. -/
theorem Client.InStep.call {c : Client (σ × Bytes)} {t : Rpc σ} (h : c.InStep t)
    (srv : Server σ) (call : ClientCall) :
  NoMismatch (c.call srv.peer call).1 ∧
    (c.call srv.peer call).1 = (srv.call t call).1 ∧
    (c.call srv.peer call).2.InStep (srv.call t call).2
  := by
  apply Program.Meets.interp (isMethod_program call) ?_ h
  intro c t o ho hstep
  obtain ⟨hr, hnext⟩ := hstep.handler srv ho
  refine ⟨?_, hr, hnext⟩
  rw [hr]
  apply noMismatch_outcome

/-- The client stays in step over every sequence of calls. -/
theorem Client.InStep.session {c : Client (σ × Bytes)} {t : Rpc σ} (h : c.InStep t)
    (srv : Server σ) (calls : List ClientCall) :
  (c.session srv.peer calls).InStep (srv.session t calls)
  := by
  induction calls generalizing c t with
  | nil => exact h
  | cons call calls ih => exact ih (h.call srv call).2.2

/-- What a call returns is determined by the answers to its own requests. -/
theorem feed_call (t : Rpc σ) (call : ClientCall) :
  ∃ answers, (srv.call t call).2.answered = t.answered ++ answers ∧
    call.program.feed outcome answers = some (srv.call t call).1
  := by
  apply Program.feed_of_interp
  intro t o
  exact ⟨_, rfl, rfl⟩

/-- Over every session with a server that answers each request in order and with its id, after
every call nothing is left to read and the server waits for a request; no call fails because
of a response to another request; and what it returns is what its method makes of the answers
to its own requests. -/
theorem session_inStep (srv : Server σ) (s : σ) (reqID : UInt32) (calls : List ClientCall)
    (call : ClientCall) :
  let c : Client (σ × Bytes) := Client.session srv.peer ⟨reqID, (s, []), []⟩ calls
  let t : Rpc σ := srv.session ⟨s, reqID, []⟩ calls
  c.input = [] ∧
    (c.call srv.peer call).2.input = [] ∧
    (c.call srv.peer call).2.InStep (srv.call t call).2 ∧
    NoMismatch (c.call srv.peer call).1 ∧
    ∃ answers, (srv.call t call).2.answered = t.answered ++ answers ∧
      call.program.feed outcome answers = some (c.call srv.peer call).1
  := by
  have hstart : Client.InStep ⟨reqID, (s, []), []⟩ (⟨s, reqID, []⟩ : Rpc σ) :=
    ⟨rfl, rfl, rfl, rfl⟩
  have hsession := hstart.session srv calls
  obtain ⟨hmismatch, hresult, hstep⟩ := hsession.call srv call
  refine ⟨hsession.input, hstep.input, hstep, hmismatch, ?_⟩
  rw [hresult]
  apply feed_call

end

end GroutCni
