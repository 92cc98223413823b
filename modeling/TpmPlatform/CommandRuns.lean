/-
# Sessions of commands (`plat/mod.rs`)

`execute_command` in the process: the library gets the framed request and the state of
the process, and answers with what it leaves in the buffers, the callbacks it issues and
its memory.  A session is one command after another.

* `session_framed` : a session depends on the bytes that the headers ask for and on the
  response slices; what a request slice holds behind its frame makes no difference to any
  result or to the process;
* `session_refused` : a session is the session of the requests that are not refused.
-/
import TpmPlatform.ExecuteCommand
import TpmPlatform.PlatformSteps

namespace TpmPlatform

open Runs

/-! ## One command -/

/-- The bytes that the header of a request asks for, if `execute_command` accepts it. -/
def framedRequest (request : List UInt8) : Option (List UInt8) :=
  match requestHeaderSize request with
  | none => none
  | some headerSize =>
    if headerSize > UInt32.ofNat request.length then none
    else some (request.take headerSize.toNat)

/-- A request without a frame is refused. -/
theorem executeCommand_of_unframed {executeCommandFfi : (call : LibraryCall) → LibraryReply call}
    {request : List UInt8} (h : framedRequest request = none) (response : List UInt8) :
    executeCommand executeCommandFfi request response = refusedRequest request response := by
  unfold framedRequest at h
  unfold executeCommand
  cases hheader : requestHeaderSize request with
  | none => rfl
  | some headerSize =>
      rw [hheader] at h
      dsimp only at h ⊢
      by_cases hgt : headerSize > UInt32.ofNat request.length
      · rw [if_pos hgt]
      · rw [if_neg hgt] at h
        cases h

/-- Any other one is executed, and what stands behind its frame is left alone. -/
theorem executeCommand_of_framed {executeCommandFfi : (call : LibraryCall) → LibraryReply call}
    {request framed : List UInt8} (h : framedRequest request = some framed)
    (response : List UInt8) :
    executeCommand executeCommandFfi request response =
      let result := executeCommandUnchecked executeCommandFfi framed response
      { call := some (uncheckedCall framed response)
        outcome := result.outcome.map .ok
        request := result.request ++ request.drop framed.length
        response := result.response } := by
  unfold framedRequest at h
  cases hheader : requestHeaderSize request with
  | none =>
      rw [hheader] at h
      cases h
  | some headerSize =>
      rw [hheader] at h
      dsimp only at h
      by_cases hgt : headerSize > UInt32.ofNat request.length
      · rw [if_pos hgt] at h
        cases h
      · rw [if_neg hgt] at h
        obtain rfl := Option.some.inj h
        have hle : headerSize.toNat ≤ request.length % 2 ^ 32 := by
          rw [gt_iff_lt, UInt32.not_lt, UInt32.le_iff_toNat_le, UInt32.toNat_ofNat'] at hgt
          exact hgt
        have hlength : (request.take headerSize.toNat).length = headerSize.toNat := by
          rw [List.length_take]
          exact Nat.min_eq_left (hle.trans (Nat.mod_le _ _))
        rw [executeCommand_of_le hheader hle, hlength]
        dsimp only
        rw [call_executeCommandUnchecked]

/-- The slices of a call of `execute_command`. -/
structure Command where
  request : List UInt8
  response : List UInt8

/-- Two commands with the same frame and the same response slice. -/
def Command.SameFrame (c c' : Command) : Prop :=
  framedRequest c.request = framedRequest c'.request ∧ c.response = c'.response

/-- What a command shows apart from the request slice. -/
def CommandResult.seen {α : Type} (r : CommandResult α) :
    Option LibraryCall × Option α × List UInt8 :=
  (r.call, r.outcome, r.response)

/-- A command shows nothing of what stands behind the frame. -/
theorem seen_executeCommand (executeCommandFfi : (call : LibraryCall) → LibraryReply call)
    {c c' : Command} (h : c.SameFrame c') :
    (executeCommand executeCommandFfi c.request c.response).seen =
      (executeCommand executeCommandFfi c'.request c'.response).seen := by
  obtain ⟨hframe, hresponse⟩ := h
  cases hframed : framedRequest c.request with
  | none =>
      rw [executeCommand_of_unframed hframed,
        executeCommand_of_unframed (hframe.symm.trans hframed), hresponse]
      rfl
  | some framed =>
      rw [executeCommand_of_framed hframed,
        executeCommand_of_framed (hframe.symm.trans hframed), hresponse]
      rfl

/-! ## Sessions -/

/-- The library as it executes commands: from the state of the process and the arguments
of the call, what it leaves in the buffers, and the callbacks and the memory. -/
structure CommandLibrary {ι : Type} (B : Build ι) (ρ : Type) where
  reply : Process B ρ → (call : LibraryCall) → LibraryReply call
  run : Process B ρ → LibraryCall → LibraryRun B ρ

namespace Process

variable {ι : Type} {B : Build ι} {ρ : Type}

/-- The use of `execute_command` that a command is. -/
def commandRun (tpm : CommandLibrary B ρ) (w : Process B ρ) (c : Command) : CommandRun B ρ where
  checked := true
  request := c.request
  response := c.response
  reply := tpm.reply w
  library := tpm.run w

/-- One command after another: the results and the process at the end; `none` when a callback
panics, which takes the process down.  A panic of the method itself is the `none` of its
outcome. -/
def session (tpm : CommandLibrary B ρ) :
    Process B ρ → List Command → Option (List (CommandResult (Except Error ℕ)) × Process B ρ)
  | w, [] => some ([], w)
  | w, c :: cs =>
    (w.callCommand (w.commandRun tpm c)).bind fun (result, w) =>
      (session tpm w cs).map fun (results, w) => (result :: results, w)

/-- The first command is executed first. -/
theorem session_cons (tpm : CommandLibrary B ρ) (w : Process B ρ) (c : Command)
    (cs : List Command) :
    w.session tpm (c :: cs) =
      (w.callCommand (w.commandRun tpm c)).bind fun first =>
        (first.2.session tpm cs).map fun rest => (first.1 :: rest.1, rest.2) := rfl

/-- What a session shows apart from the request slices. -/
def seenOf (r : List (CommandResult (Except Error ℕ)) × Process B ρ) :
    List (Option LibraryCall × Option (Except Error ℕ) × List UInt8) × Process B ρ :=
  (r.1.map CommandResult.seen, r.2)

/-- A refused command. -/
theorem callCommand_of_unframed (tpm : CommandLibrary B ρ) (w : Process B ρ) {c : Command}
    (h : framedRequest c.request = none) :
    w.callCommand (w.commandRun tpm c) = some (refusedRequest c.request c.response, w) := by
  have hresult : (w.commandRun tpm c).result = refusedRequest c.request c.response :=
    executeCommand_of_unframed h c.response
  rw [callCommand_of_none (by rw [hresult]; rfl), hresult]

/-- An executed command makes its call. -/
theorem call_commandRun (tpm : CommandLibrary B ρ) (w : Process B ρ) {c : Command}
    {framed : List UInt8} (h : framedRequest c.request = some framed) :
    (w.commandRun tpm c).result.call = some (uncheckedCall framed c.response) := by
  have hresult : TpmPlatform.executeCommand (tpm.reply w) c.request c.response = _ :=
    executeCommand_of_framed h c.response
  exact congrArg CommandResult.call hresult

/-- An executed command. -/
theorem callCommand_of_framed (tpm : CommandLibrary B ρ) (w : Process B ρ) {c : Command}
    {framed : List UInt8} (h : framedRequest c.request = some framed) :
    w.callCommand (w.commandRun tpm c) =
      (w.runLibrary (tpm.run w (uncheckedCall framed c.response))).map fun w' =>
        ((w.commandRun tpm c).result, w') :=
  callCommand_of_some (call_commandRun tpm w h) w

/-- **One command** shows, and does, nothing that depends on what stands behind the frame. -/
theorem callCommand_sameFrame (tpm : CommandLibrary B ρ) (w : Process B ρ) {c c' : Command}
    (h : c.SameFrame c') :
    (w.callCommand (w.commandRun tpm c)).map (Prod.map CommandResult.seen id) =
      (w.callCommand (w.commandRun tpm c')).map (Prod.map CommandResult.seen id) := by
  have hseen : (w.commandRun tpm c).result.seen = (w.commandRun tpm c').result.seen :=
    seen_executeCommand (tpm.reply w) h
  obtain ⟨hframe, hresponse⟩ := h
  cases hframed : framedRequest c.request with
  | none =>
      have hframed' := hframe.symm.trans hframed
      rw [callCommand_of_unframed tpm w hframed, callCommand_of_unframed tpm w hframed',
        hresponse]
      rfl
  | some framed =>
      have hframed' := hframe.symm.trans hframed
      rw [callCommand_of_framed tpm w hframed, callCommand_of_framed tpm w hframed',
        hresponse, Option.map_map, Option.map_map]
      congr 1
      funext w'
      exact Prod.ext hseen rfl

/-- **Only the frame counts.**  For every library and every two sessions whose commands have
pairwise the same response slices, and the same frames in the eyes of `execute_command`'s own
check: the library is called with the same arguments, every command returns the same and
leaves the same response, and the processes end up the same, whatever the request slices hold
behind the frames. -/
theorem session_framed (tpm : CommandLibrary B ρ) (w : Process B ρ) (cs cs' : List Command)
    (h : List.Forall₂ Command.SameFrame cs cs') :
    (w.session tpm cs).map seenOf = (w.session tpm cs').map seenOf := by
  induction h generalizing w with
  | nil => rfl
  | @cons c c' cs cs' hc hcs ih =>
      have hone := callCommand_sameFrame tpm w hc
      rw [session_cons, session_cons]
      cases hfirst : w.callCommand (w.commandRun tpm c) with
      | none =>
          rw [hfirst, Option.map_none, eq_comm, Option.map_eq_none_iff] at hone
          rw [hone]
          rfl
      | some first =>
          rw [hfirst, Option.map_some, eq_comm, Option.map_eq_some_iff] at hone
          obtain ⟨first', hfirst', heq⟩ := hone
          obtain ⟨hresult, hprocess⟩ := Prod.mk.inj heq
          -- the rest of the two sessions starts from the same process
          obtain hprocess : first'.2 = first.2 := hprocess
          have hrest := congrArg (Option.map fun r => (first.1.seen :: r.1, r.2)) (ih first.2)
          rw [Option.map_map, Option.map_map] at hrest
          rw [hfirst', Option.bind_some, Option.bind_some, Option.map_map, Option.map_map,
            hprocess]
          refine hrest.trans (congrArg (Option.map · (first.2.session tpm cs')) ?_)
          funext r
          show (first.1.seen :: r.1.map CommandResult.seen, r.2) =
            (first'.1.seen :: r.1.map CommandResult.seen, r.2)
          rw [hresult]

/-- A library that takes every command and answers nothing. -/
def silentLibrary : CommandLibrary miniBuild Unit where
  reply _ := idleLibrary
  run w _ := w.silent

/-- A request of six bytes in a slice of eight is the request in a slice of its own. -/
theorem session_framed_tail :
    (coldProcess.session silentLibrary [⟨[128, 1, 0, 0, 0, 6, 7, 7], []⟩]).map seenOf =
      (coldProcess.session silentLibrary [⟨[128, 1, 0, 0, 0, 6], []⟩]).map seenOf :=
  session_framed silentLibrary coldProcess _ _
    (List.forall₂_cons.mpr ⟨⟨by decide, rfl⟩, List.Forall₂.nil⟩)

/-- **Refused requests leave no trace.**  A session is the session of its accepted requests:
the results of these and the process at the end are the same, and a refused request gets its
slices back as they were. -/
theorem session_refused (tpm : CommandLibrary B ρ) (w : Process B ρ) (cs : List Command) :
    (w.session tpm cs).map (fun r => (r.1.filter fun result => result.call.isSome, r.2)) =
      w.session tpm (cs.filter fun c => (framedRequest c.request).isSome) := by
  induction cs generalizing w with
  | nil => rfl
  | cons c cs ih =>
      rw [session_cons]
      cases hframed : framedRequest c.request with
      | none =>
          rw [List.filter_cons_of_neg (by rw [hframed]; exact Bool.false_ne_true), ← ih,
            callCommand_of_unframed tpm w hframed, Option.bind_some, Option.map_map]
          rfl
      | some framed =>
          rw [List.filter_cons_of_pos (by rw [hframed]; rfl), session_cons,
            callCommand_of_framed tpm w hframed]
          cases w.runLibrary (tpm.run w (uncheckedCall framed c.response)) with
          | none => rfl
          | some w₁ =>
              have hcall := call_commandRun tpm w hframed
              rw [Option.map_some, Option.bind_some, Option.bind_some, ← ih, Option.map_map,
                Option.map_map]
              congr 1
              funext r
              show (List.filter _ (_ :: r.1), r.2) = (_ :: List.filter _ r.1, r.2)
              rw [List.filter_cons_of_pos (by rw [hcall]; rfl)]

/-- A command of a session that does not panic is a use of the crate. -/
theorem step_of_callCommand [DecidableEq ι] (lib : TpmLibrary B ρ) (codec : Codec)
    {w w' : Process B ρ} {run : CommandRun B ρ} {result : CommandResult (Except Error ℕ)}
    (hhandles : w.handles ≠ 0) (h : w.callCommand run = some (result, w'))
    (houtcome : result.outcome ≠ none) :
    w.step lib codec (.executeCommand run) = some w' := by
  obtain ⟨r, hr⟩ := Option.ne_none_iff_exists'.mp houtcome
  rw [step, if_neg hhandles, executeCommand, h, Option.bind_some]
  dsimp only
  rw [hr]
  rfl

/-- **A session that does not panic** is a run of the crate, with the same slices. -/
theorem session_run [DecidableEq ι] (lib : TpmLibrary B ρ) (codec : Codec)
    (tpm : CommandLibrary B ρ) {w w' : Process B ρ} {cs : List Command}
    {results : List (CommandResult (Except Error ℕ))} (hhandles : w.handles ≠ 0)
    (h : w.session tpm cs = some (results, w'))
    (houtcomes : ∀ result ∈ results, result.outcome ≠ none) :
    ∃ runs : List (CommandRun B ρ), runs.map CommandRun.result = results ∧
      runs.map (fun run => Command.mk run.request run.response) = cs ∧
        runFrom (step lib codec) w (runs.map .executeCommand) = some w' := by
  induction cs generalizing w results with
  | nil =>
      obtain ⟨rfl, rfl⟩ := Prod.mk.inj (Option.some.inj h)
      exact ⟨[], rfl, rfl, rfl⟩
  | cons c cs ih =>
      rw [session_cons, Option.bind_eq_some_iff] at h
      obtain ⟨⟨result, w₁⟩, hfirst, h⟩ := h
      obtain ⟨⟨results', w₂⟩, hrest, h⟩ := Option.map_eq_some_iff.mp h
      obtain ⟨rfl, rfl⟩ := Prod.mk.inj h
      have hstep := step_of_callCommand lib codec hhandles hfirst
        (houtcomes result List.mem_cons_self)
      have hresult : (w.commandRun tpm c).result = result ∧ w₁.handles = w.handles := by
        cases hcall : (w.commandRun tpm c).result.call with
        | none =>
            rw [callCommand_of_none hcall] at hfirst
            obtain ⟨rfl, rfl⟩ := Prod.mk.inj (Option.some.inj hfirst)
            exact ⟨rfl, rfl⟩
        | some call =>
            rw [callCommand_of_some hcall] at hfirst
            obtain ⟨w₁', hrun, heq⟩ := Option.map_eq_some_iff.mp hfirst
            obtain ⟨rfl, rfl⟩ := Prod.mk.inj heq
            -- a call into the library does not touch the handles
            obtain ⟨p, p', -, -, rfl⟩ := runLibrary_eq_some.mp hrun
            exact ⟨rfl, rfl⟩
      obtain ⟨runs, hresults, hslices, hruns⟩ := ih (hresult.2 ▸ hhandles) hrest
        fun r hr => houtcomes r (List.mem_cons_of_mem _ hr)
      refine ⟨w.commandRun tpm c :: runs, ?_, ?_, ?_⟩
      · rw [List.map_cons, hresults, hresult.1]
      · rw [List.map_cons, hslices]
        rfl
      · rw [List.map_cons, runFrom_cons_eq_some]
        exact ⟨w₁, hstep, hruns⟩

end Process

end TpmPlatform
