/-
# Executing a command (`plat/mod.rs`)

`execute_command` checks the size in the request header and hands the request to the
library's `ExecuteCommand`; `execute_command_unchecked` makes the call and fetches the
response, which the library may have left in a buffer of its own.

The library is a parameter: from the arguments of the call it determines what the two
buffers hold afterwards, the size it reports and where the response pointer leads.

* `executeCommand_framed_iff` : requests are framed by their header, as long as the
  length of the slice does not wrap where it is cast to `u32`;
* `executeCommand_delivered_iff` : a redirected reply is delivered exactly if it fits
  the caller's slice, and otherwise the copy panics.
-/
import TpmPlatform.Bytes
import TpmPlatform.Error

namespace TpmPlatform

open Bytes

/-! ## The call into the library -/

/-- The arguments of a call of `ExecuteCommand`: the two sizes, and what the two pointers
lead to. -/
structure LibraryCall where
  requestSize : UInt32
  request : List UInt8
  responseSize : UInt32
  response : List UInt8
  deriving DecidableEq

/-- Where the library leaves the response pointer; another buffer than the two it was
given is valid for the size it reports. -/
inductive ResponsePtr (size : ℕ)
  | response
  | request
  | null
  | redirected (reply : List.Vector UInt8 size)

/-- What the library leaves behind. -/
structure LibraryReply (call : LibraryCall) where
  request : List.Vector UInt8 call.request.length
  response : List.Vector UInt8 call.response.length
  responseSize : UInt32
  responsePtr : ResponsePtr responseSize.toNat

/-- What a method leaves behind: the call it made, its result (`none` if it panicked) and
the caller's two slices. -/
structure CommandResult (α : Type) where
  call : Option LibraryCall
  outcome : Option α
  request : List UInt8
  response : List UInt8

/-- The call that `execute_command_unchecked` makes. -/
def uncheckedCall (request response : List UInt8) : LibraryCall where
  requestSize := UInt32.ofNat request.length
  request := request
  responseSize := UInt32.ofNat response.length
  response := response

section

variable (executeCommandFfi : (call : LibraryCall) → LibraryReply call)

/-- `execute_command_unchecked`. -/
def executeCommandUnchecked (request response : List UInt8) : CommandResult ℕ :=
  let call := uncheckedCall request response
  let reply := executeCommandFfi call
  let panicked : CommandResult ℕ :=
    { call := some call
      outcome := none
      request := reply.request.toList
      response := reply.response.toList }
  match reply.responsePtr with
  | .response => { panicked with outcome := some reply.responseSize.toNat }
  | .request => panicked
  | .null => panicked
  | .redirected cResponse =>
    -- the index `..response_size` panics when it exceeds the slice
    if reply.responseSize.toNat ≤ response.length then
      { panicked with
        outcome := some reply.responseSize.toNat
        response := splice reply.response.toList 0 cResponse.toList }
    else panicked

/-- `u32::from_be_bytes`. -/
def fromBeBytes (bytes : List UInt8) : UInt32 := UInt32.ofNat (ofLE bytes.reverse)

/-- The `request_header_size` of `execute_command`: bytes 2 to 5, if there are so many. -/
def requestHeaderSize (request : List UInt8) : Option UInt32 :=
  if 6 ≤ request.length then some (fromBeBytes (window request 2 4)) else none

/-- The request is refused before the library is called. -/
def refusedRequest (request response : List UInt8) : CommandResult (Except Error ℕ) where
  call := none
  outcome := some (.error .invalidRequestSize)
  request := request
  response := response

/-- `execute_command`. -/
def executeCommand (request response : List UInt8) : CommandResult (Except Error ℕ) :=
  match requestHeaderSize request with
  | none => refusedRequest request response
  | some headerSize =>
    if headerSize > UInt32.ofNat request.length then refusedRequest request response
    else
      let size := min request.length headerSize.toNat
      let result := executeCommandUnchecked executeCommandFfi (request.take size) response
      { call := result.call
        outcome := result.outcome.map .ok
        -- the library sees the truncated slice, the rest of the request stays
        request := result.request ++ request.drop size
        response := result.response }

end

/-! ## What the methods do -/

section

variable {executeCommandFfi : (call : LibraryCall) → LibraryReply call}

/-- `execute_command_unchecked` always makes its call. -/
theorem call_executeCommandUnchecked (request response : List UInt8) :
    (executeCommandUnchecked executeCommandFfi request response).call =
      some (uncheckedCall request response) := by
  unfold executeCommandUnchecked
  dsimp only
  split
  · rfl
  · rfl
  · rfl
  · split_ifs
    · rfl
    · rfl

/-- A redirected reply is copied over the start of the response slice, if it fits; if it
does not, the copy panics. -/
theorem executeCommandUnchecked_of_redirected {request response : List UInt8}
    {reply : List.Vector UInt8
      (executeCommandFfi (uncheckedCall request response)).responseSize.toNat}
    (h : (executeCommandFfi (uncheckedCall request response)).responsePtr = .redirected reply) :
    let size := (executeCommandFfi (uncheckedCall request response)).responseSize.toNat
    (size ≤ response.length →
      (executeCommandUnchecked executeCommandFfi request response).outcome = some size ∧
      (executeCommandUnchecked executeCommandFfi request response).response.take size =
        reply.toList) ∧
    (response.length < size →
      (executeCommandUnchecked executeCommandFfi request response).outcome = none) := by
  unfold executeCommandUnchecked
  dsimp only
  rw [h]
  dsimp only
  constructor
  · intro hfits
    rw [if_pos hfits]
    refine ⟨rfl, ?_⟩
    have hlength : reply.toList.length =
        (executeCommandFfi (uncheckedCall request response)).responseSize.toNat :=
      reply.toList_length
    show (splice _ 0 reply.toList).take _ = _
    rw [splice, List.take_zero, List.nil_append]
    exact List.take_left' hlength
  · intro hover
    rw [if_neg (Nat.not_le.mpr hover)]

/-- A request without a header. -/
theorem executeCommand_of_none {request : List UInt8} (h : requestHeaderSize request = none)
    (response : List UInt8) :
    executeCommand executeCommandFfi request response = refusedRequest request response := by
  unfold executeCommand
  rw [h]

/-- A header that exceeds the length, as far as 32 bits of it go. -/
theorem executeCommand_of_lt {request : List UInt8} {headerSize : UInt32}
    (h : requestHeaderSize request = some headerSize)
    (hlt : request.length % 2 ^ 32 < headerSize.toNat) (response : List UInt8) :
    executeCommand executeCommandFfi request response = refusedRequest request response := by
  have hgt : headerSize > UInt32.ofNat request.length := by
    rw [gt_iff_lt, UInt32.lt_iff_toNat_lt, UInt32.toNat_ofNat']
    exact hlt
  unfold executeCommand
  rw [h]
  dsimp only
  rw [if_pos hgt]

/-- Any other header: the library is called with as many bytes. -/
theorem executeCommand_of_le {request : List UInt8} {headerSize : UInt32}
    (h : requestHeaderSize request = some headerSize)
    (hle : headerSize.toNat ≤ request.length % 2 ^ 32) (response : List UInt8) :
    executeCommand executeCommandFfi request response =
      let result := executeCommandUnchecked executeCommandFfi (request.take headerSize.toNat)
        response
      { call := result.call
        outcome := result.outcome.map .ok
        request := result.request ++ request.drop headerSize.toNat
        response := result.response } := by
  have hnot : ¬ headerSize > UInt32.ofNat request.length := by
    rw [gt_iff_lt, UInt32.not_lt, UInt32.le_iff_toNat_le, UInt32.toNat_ofNat']
    exact hle
  have hmin : min request.length headerSize.toNat = headerSize.toNat :=
    Nat.min_eq_right (hle.trans (Nat.mod_le _ _))
  unfold executeCommand
  rw [h]
  dsimp only
  rw [if_neg hnot, hmin]

/-- Without a call there is an error to return. -/
theorem outcome_of_call_none {request response : List UInt8}
    (h : (executeCommand executeCommandFfi request response).call = none) :
    (executeCommand executeCommandFfi request response).outcome =
      some (.error .invalidRequestSize) := by
  cases hheader : requestHeaderSize request with
  | none =>
      rw [executeCommand_of_none hheader]
      rfl
  | some headerSize =>
      rcases Nat.lt_or_ge (request.length % 2 ^ 32) headerSize.toNat with hlt | hle
      · rw [executeCommand_of_lt hheader hlt]
        rfl
      · rw [executeCommand_of_le hheader hle] at h
        exact absurd (h.symm.trans (call_executeCommandUnchecked _ _)) (by intro hc; cases hc)

/-- A call that `execute_command` makes is one with the bytes that the header asks for. -/
theorem of_call_executeCommand {request response : List UInt8} {call : LibraryCall}
    (h : (executeCommand executeCommandFfi request response).call = some call) :
    ∃ headerSize, requestHeaderSize request = some headerSize ∧
      headerSize.toNat ≤ request.length % 2 ^ 32 ∧
      call = uncheckedCall (request.take headerSize.toNat) response := by
  cases hheader : requestHeaderSize request with
  | none =>
      rw [executeCommand_of_none hheader] at h
      cases h
  | some headerSize =>
      rcases Nat.lt_or_ge (request.length % 2 ^ 32) headerSize.toNat with hlt | hle
      · rw [executeCommand_of_lt hheader hlt] at h
        cases h
      · refine ⟨headerSize, rfl, hle, ?_⟩
        rw [executeCommand_of_le hheader hle] at h
        exact (Option.some.inj (h.symm.trans (call_executeCommandUnchecked _ _)))

end

/-! ## Request framing -/

/-- The library is called exactly for a request that is as long as its header says, or
longer, with as many bytes; any other one is refused and nothing has changed. -/
structure Framed (executeCommandFfi : (call : LibraryCall) → LibraryReply call)
    (request response : List UInt8) : Prop where
  called_iff : (executeCommand executeCommandFfi request response).call.isSome = true ↔
    ∃ headerSize, requestHeaderSize request = some headerSize ∧
      headerSize.toNat ≤ request.length
  received : ∀ call, (executeCommand executeCommandFfi request response).call = some call →
    ∃ headerSize, requestHeaderSize request = some headerSize ∧
      call.request = request.take headerSize.toNat ∧ call.requestSize = headerSize
  refused : (executeCommand executeCommandFfi request response).call = none →
    executeCommand executeCommandFfi request response = refusedRequest request response

/-- What the library receives is what the header says, whenever it is called. -/
theorem received_executeCommand {executeCommandFfi : (call : LibraryCall) → LibraryReply call}
    {request response : List UInt8} {call : LibraryCall}
    (h : (executeCommand executeCommandFfi request response).call = some call) :
    ∃ headerSize, requestHeaderSize request = some headerSize ∧
      call.request = request.take headerSize.toNat ∧ call.requestSize = headerSize := by
  obtain ⟨headerSize, hheader, hle, rfl⟩ := of_call_executeCommand h
  refine ⟨headerSize, hheader, rfl, ?_⟩
  have hlength : (request.take headerSize.toNat).length = headerSize.toNat := by
    rw [List.length_take]
    exact Nat.min_eq_left (hle.trans (Nat.mod_le _ _))
  rw [uncheckedCall, hlength, UInt32.ofNat_toNat]

/-- A request without a header is framed: it is refused. -/
theorem framed_of_none {executeCommandFfi : (call : LibraryCall) → LibraryReply call}
    {request : List UInt8} (hheader : requestHeaderSize request = none) (response : List UInt8) :
    Framed executeCommandFfi request response := by
  have hrefused : executeCommand executeCommandFfi request response =
      refusedRequest request response := executeCommand_of_none hheader response
  refine ⟨?_, fun call h => received_executeCommand h, fun _ => hrefused⟩
  rw [hrefused, hheader]
  simp [refusedRequest]

/-- So is one whose header does not exceed 32 bits of its length: the library is called. -/
theorem framed_of_le {executeCommandFfi : (call : LibraryCall) → LibraryReply call}
    {request : List UInt8} {headerSize : UInt32}
    (hheader : requestHeaderSize request = some headerSize)
    (hle : headerSize.toNat ≤ request.length % 2 ^ 32) (response : List UInt8) :
    Framed executeCommandFfi request response := by
  have hcall : (executeCommand executeCommandFfi request response).call =
      some (uncheckedCall (request.take headerSize.toNat) response) := by
    rw [executeCommand_of_le hheader hle]
    exact call_executeCommandUnchecked _ _
  refine ⟨?_, fun call h => received_executeCommand h, fun hnone => ?_⟩
  · rw [hcall]
    exact iff_of_true rfl ⟨headerSize, hheader, hle.trans (Nat.mod_le _ _)⟩
  · rw [hcall] at hnone
    cases hnone

/-- Any other one is refused, rightly so if the 32 bits are all of its length. -/
theorem framed_iff_of_lt {executeCommandFfi : (call : LibraryCall) → LibraryReply call}
    {request : List UInt8} {headerSize : UInt32}
    (hheader : requestHeaderSize request = some headerSize)
    (hlt : request.length % 2 ^ 32 < headerSize.toNat) (response : List UInt8) :
    Framed executeCommandFfi request response ↔ request.length < 2 ^ 32 := by
  have hrefused : executeCommand executeCommandFfi request response =
      refusedRequest request response := executeCommand_of_lt hheader hlt response
  have hword : headerSize.toNat < 2 ^ 32 := headerSize.toNat_lt
  constructor
  · intro hframed
    have hcalled := hframed.called_iff
    rw [hrefused, hheader] at hcalled
    by_contra hlong
    have hsome := hcalled.mpr ⟨headerSize, rfl, by omega⟩
    cases hsome
  · intro hshort
    refine ⟨?_, fun call h => received_executeCommand h, fun _ => hrefused⟩
    rw [hrefused, hheader]
    refine iff_of_false Bool.false_ne_true ?_
    rintro ⟨headerSize', hsome, hle⟩
    obtain rfl := Option.some.inj hsome
    rw [Nat.mod_eq_of_lt hshort] at hlt
    omega

/-- **Request framing.**  For every library, request and response slice: the request is
framed by its header, if and only if its length fits in 32 bits or the header does not
exceed the 32 bits of it that are left. -/
theorem executeCommand_framed_iff
    (executeCommandFfi : (call : LibraryCall) → LibraryReply call)
    (request response : List UInt8) :
    Framed executeCommandFfi request response ↔
      request.length < 2 ^ 32 ∨ ∃ headerSize, requestHeaderSize request = some headerSize ∧
        headerSize.toNat ≤ request.length % 2 ^ 32 := by
  cases hheader : requestHeaderSize request with
  | none =>
      -- the slice is shorter than a header
      have hshort : request.length < 2 ^ 32 := by
        unfold requestHeaderSize at hheader
        split_ifs at hheader with hlength
        omega
      exact iff_of_true (framed_of_none hheader response) (Or.inl hshort)
  | some headerSize =>
      rcases Nat.lt_or_ge (request.length % 2 ^ 32) headerSize.toNat with hlt | hle
      · rw [framed_iff_of_lt hheader hlt response]
        constructor
        · exact Or.inl
        · rintro (hshort | ⟨headerSize', hsome, hle⟩)
          · exact hshort
          · obtain rfl := Option.some.inj hsome
            omega
      · exact iff_of_true (framed_of_le hheader hle response) (Or.inr ⟨headerSize, rfl, hle⟩)

/-- A library that touches nothing and reports an empty response. -/
def idleLibrary (call : LibraryCall) : LibraryReply call where
  request := ⟨call.request, rfl⟩
  response := ⟨call.response, rfl⟩
  responseSize := 0
  responsePtr := .response

/-- A slice of `2 ^ 32 + 6` bytes whose header says 10. -/
def longRequest : List UInt8 := [0, 0, 0, 0, 0, 10] ++ List.replicate (2 ^ 32) 0

/-- It is refused, although it is longer than its header says. -/
theorem executeCommand_not_framed :
    ¬ ∀ (executeCommandFfi : (call : LibraryCall) → LibraryReply call)
      (request response : List UInt8), Framed executeCommandFfi request response := by
  intro h
  have hlength : longRequest.length = 2 ^ 32 + 6 := by
    rw [longRequest, List.length_append, List.length_replicate]
    rfl
  have hheader : requestHeaderSize longRequest = some 10 := by
    rw [requestHeaderSize, if_pos (by omega), longRequest]
    rfl
  have hrefused : executeCommand idleLibrary longRequest [] = refusedRequest longRequest [] :=
    executeCommand_of_lt hheader (by rw [hlength]; decide) []
  have hcalled := (h idleLibrary longRequest []).called_iff
  rw [hrefused] at hcalled
  have hsome := hcalled.mpr ⟨10, hheader, by rw [hlength]; decide⟩
  cases hsome

/-! ## Response delivery -/

/-- The reply has reached the caller, or the caller has an error and its slice back as it
was; in either case there was no panic. -/
def Delivered (result : CommandResult (Except Error ℕ)) (reply response : List UInt8) : Prop :=
  (∃ n, result.outcome = some (.ok n) ∧ n ≤ response.length ∧ result.response.take n = reply) ∨
    ∃ e, result.outcome = some (.error e) ∧ result.response = response

/-- **Response delivery.**  For every library, every request that it is called for and
every response slice: a reply in a buffer of the library's own is delivered, if and only
if it is no longer than the slice. -/
theorem executeCommand_delivered_iff
    (executeCommandFfi : (call : LibraryCall) → LibraryReply call)
    (request response : List UInt8) (call : LibraryCall)
    (reply : List.Vector UInt8 (executeCommandFfi call).responseSize.toNat)
    (hcall : (executeCommand executeCommandFfi request response).call = some call)
    (hredirected : (executeCommandFfi call).responsePtr = .redirected reply) :
    Delivered (executeCommand executeCommandFfi request response) reply.toList response ↔
      (executeCommandFfi call).responseSize.toNat ≤ response.length := by
  obtain ⟨headerSize, hheader, hle, rfl⟩ := of_call_executeCommand hcall
  rw [executeCommand_of_le hheader hle]
  obtain ⟨hfits, hover⟩ := executeCommandUnchecked_of_redirected hredirected
  constructor
  · intro hdelivered
    by_contra hnot
    -- the panic leaves no outcome at all
    have hnone := hover (Nat.not_le.mp hnot)
    rcases hdelivered with ⟨n, hok, -, -⟩ | ⟨e, herror, -⟩
    · dsimp only at hok
      rw [hnone] at hok
      cases hok
    · dsimp only at herror
      rw [hnone] at herror
      cases herror
  · intro hsize
    obtain ⟨hok, hreply⟩ := hfits hsize
    refine Or.inl ⟨_, ?_, hsize, hreply⟩
    dsimp only
    rw [hok]
    rfl

/-- `MAX_RESPONSE_SIZE`. -/
def maxResponseSize : ℕ := 8192

/-- The response of a TPM in failure mode, `TPM_RC_FAILURE`. -/
def failureReply : List.Vector UInt8 10 := ⟨[0x80, 0x01, 0, 0, 0, 10, 0, 0, 0x01, 0x01], rfl⟩

/-- A library in failure mode: it answers from a buffer of its own. -/
def failedLibrary (call : LibraryCall) : LibraryReply call where
  request := ⟨call.request, rfl⟩
  response := ⟨call.response, rfl⟩
  responseSize := 10
  responsePtr := .redirected failureReply

/-- A command without parameters. -/
def shortRequest : List UInt8 := [0x80, 0x01, 0, 0, 0, 10, 0, 0, 0x01, 0x7c]

/-- Its answer is delivered to a slice of 12 bytes. -/
theorem executeCommand_delivered_iff_failed :
    Delivered (executeCommand failedLibrary shortRequest (List.replicate 12 0))
      failureReply.toList (List.replicate 12 0) :=
  (executeCommand_delivered_iff failedLibrary shortRequest (List.replicate 12 0)
    (uncheckedCall shortRequest (List.replicate 12 0)) failureReply rfl rfl).mpr (by decide)

/-- An empty slice makes `execute_command` panic. -/
theorem executeCommand_not_delivered :
    ¬ ∀ (executeCommandFfi : (call : LibraryCall) → LibraryReply call)
        (request response : List UInt8) (call : LibraryCall)
        (reply : List.Vector UInt8 (executeCommandFfi call).responseSize.toNat),
      (executeCommand executeCommandFfi request response).call = some call →
      (executeCommandFfi call).responsePtr = .redirected reply →
      (executeCommandFfi call).responseSize.toNat ≤ maxResponseSize →
      Delivered (executeCommand executeCommandFfi request response) reply.toList response := by
  intro h
  rcases h failedLibrary shortRequest [] (uncheckedCall shortRequest []) failureReply rfl rfl
    (by decide) with ⟨n, hok, -, -⟩ | ⟨e, herror, -⟩
  · cases hok
  · cases herror

end TpmPlatform
