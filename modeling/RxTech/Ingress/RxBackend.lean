import RxTech.Core.OwnerLoop
import RxTech.Library.Machine

/-!
# The owner loop on a backend

`IRxBackend` as the main loop uses it. Whatever the backend, the loop does what it does on
the bursts delivered, and every burst is given back before the next one is received.
-/

set_option autoImplicit false

namespace RxTech

/-- What waits at a poll, and what the steady clock answers at the timeout check after it. -/
structure RxPoll (Waiting : Type) where
  waiting : Waiting
  nowNs : Nat

/-- `recv_burst` and `release_burst`; a burst that is not received is `none`. -/
structure RxBackend (Backend Waiting : Type) where
  recvBurst : Waiting → Backend → Backend × Option (List UdpDatagramDesc)
  releaseBurst : List UdpDatagramDesc → Backend → Backend

/-- What the loop sees of a burst. -/
def Received.ofBurst (nowNs : Nat) : Option (List UdpDatagramDesc) → Received
  | none => .failed
  | some datagrams => .burst datagrams nowNs

variable {Backend Waiting : Type}

namespace RxBackend

variable (calls : RxBackend Backend Waiting)

/-- A burst is received and given back. -/
def serve (poll : RxPoll Waiting) (backend : Backend) : Backend :=
  let (backend, burst) := calls.recvBurst poll.waiting backend
  calls.releaseBurst (burst.getD []) backend

/-- What the owner loop sees of a poll. -/
def delivered (poll : RxPoll Waiting) (backend : Backend) : Received :=
  .ofBurst poll.nowNs (calls.recvBurst poll.waiting backend).2

/-- What the owner loop sees of a run of the backend. -/
def deliveries (polls : List (RxPoll Waiting)) (backend : Backend) : List Received :=
  Machine.answers calls.serve (fun poll backend => some (calls.delivered poll backend)) polls
    backend

end RxBackend

namespace OwnerLoop

/-- The main loop with its backend. The burst is given back when its iteration ends, also
when the iteration ends the loop. -/
def mainLoopOn (calls : RxBackend Backend Waiting) (pipeline : UdpDatagramPipeline) :
    List (RxPoll Waiting) → Backend → OwnerLoop → Backend × OwnerLoop
  | [], backend, loop => (backend, loop)
  | poll :: rest, backend, loop =>
      match calls.recvBurst poll.waiting backend with
      | (backend, none) => (calls.releaseBurst [] backend, loop.failReceive)
      | (backend, some datagrams) =>
          let loop := loop.processBurst pipeline datagrams
          if loop.system.runError ≠ "" then (calls.releaseBurst datagrams backend, loop)
          else
            mainLoopOn calls pipeline rest (calls.releaseBurst datagrams backend)
              (loop.checkTimeout poll.nowNs).drainRecycle

/-- The loop on a backend is the loop on what the backend delivers, and the backend has
served the polls up to the end of the loop. -/
theorem mainLoopOn_spec (calls : RxBackend Backend Waiting) (pipeline : UdpDatagramPipeline)
    (polls : List (RxPoll Waiting)) (backend : Backend) (loop : OwnerLoop) :
    (mainLoopOn calls pipeline polls backend loop).2 =
        mainLoop pipeline (calls.deliveries polls backend) loop ∧
      ∃ served, served <+: polls ∧
        (mainLoopOn calls pipeline polls backend loop).1 =
          Machine.run calls.serve served backend := by
  induction polls generalizing backend loop with
  | nil => exact ⟨rfl, [], List.nil_prefix, rfl⟩
  | cons poll rest ih =>
      have step : calls.deliveries (poll :: rest) backend =
          calls.delivered poll backend :: calls.deliveries rest (calls.serve poll backend) := rfl
      rw [step, mainLoopOn, RxBackend.delivered]
      cases polled : calls.recvBurst poll.waiting backend with
      | mk after burst =>
          have served : calls.serve poll backend = calls.releaseBurst (burst.getD []) after := by
            rw [RxBackend.serve, polled]
          cases burst with
          | none => exact ⟨rfl, [poll], List.prefix_append [poll] rest, served.symm⟩
          | some datagrams =>
              rw [served]
              by_cases error : (loop.processBurst pipeline datagrams).system.runError ≠ ""
              · simp only [Received.ofBurst, mainLoop, if_pos error]
                exact ⟨trivial, [poll], List.prefix_append [poll] rest, served.symm⟩
              · simp only [Received.ofBurst, mainLoop, if_neg error]
                obtain ⟨same, later, early, run⟩ := ih (calls.releaseBurst datagrams after)
                  ((loop.processBurst pipeline datagrams).checkTimeout poll.nowNs).drainRecycle
                refine ⟨same, poll :: later, List.cons_prefix_cons.mpr ⟨rfl, early⟩, ?_⟩
                rw [Machine.run_cons, served]
                exact run

end OwnerLoop

end RxTech
