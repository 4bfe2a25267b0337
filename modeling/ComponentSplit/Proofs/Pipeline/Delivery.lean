import ComponentSplit.Emit

namespace ComponentSplit

/-- A call of a sink: the artifact handed over, and the failure with which it was refused. -/
structure Call where
  artifact : Artifact
  refusal : Option Failure

def Call.isAccepted (c : Call) : Bool := c.refusal.isNone

/-- The artifacts that were not refused. -/
def accepted (calls : List Call) : List Artifact :=
  (calls.filter Call.isAccepted).map Call.artifact

namespace Sink

variable {σ : Type}

/-- A sink that also writes down its calls. -/
def recorded (sink : Sink σ) : Sink (σ × List Call) where
  accept := fun (state, calls) a =>
    let (state, log, refusal) := sink.accept state a
    ((state, calls ++ [⟨a, refusal⟩]), log, refusal)

/-- In each state the sink holds some artifacts, and it takes up those that it does not refuse. -/
def Keeps (sink : Sink σ) (held : σ → List Artifact) : Prop :=
  ∀ state a, held (sink.accept state a).1 =
    held state ++ if (sink.accept state a).2.2 = none then [a] else []

/-- In every state the sink refuses the same artifacts, each with the same failure. -/
def Decides (sink : Sink σ) (refuse : Artifact → Option Failure) : Prop :=
  ∀ state a, (sink.accept state a).2.2 = refuse a

end Sink

theorem memorySink_decides (refuse : Artifact → Option Failure) :
    (memorySink refuse).Decides refuse := by
  intro kept a
  rw [memorySink]
  cases hrefuse : refuse a <;> simp [hrefuse]

theorem memorySink_keeps (refuse : Artifact → Option Failure) : (memorySink refuse).Keeps id := by
  intro kept a
  rw [memorySink]
  cases hrefuse : refuse a <;> simp [hrefuse]

theorem accepted_cons (c : Call) (calls : List Call) :
    accepted (c :: calls) = (if c.refusal = none then [c.artifact] else []) ++ accepted calls := by
  obtain ⟨a, refusal⟩ := c
  cases refusal <;> simp [accepted, List.filter_cons, Call.isAccepted]

/-- What a delivery does, seen from the sink. -/
theorem deliver_calls {σ : Type} (sink : Sink σ) (state : σ) (before : List Call)
    (artifacts : List Artifact) :
    ∃ calls : List Call, calls.map Call.artifact = artifacts ∧
      (deliver sink.recorded (state, before) artifacts).state =
        ((deliver sink state artifacts).state, before ++ calls) ∧
      ((deliver sink state artifacts).failure = none ↔ ∀ c ∈ calls, c.refusal = none) ∧
      ∀ held, sink.Keeps held →
        held (deliver sink state artifacts).state = held state ++ accepted calls := by
  induction artifacts generalizing state before with
  | nil =>
    refine ⟨[], rfl, by simp [deliver], by simp [deliver], ?_⟩
    intro held _
    simp [deliver, accepted]
  | cons a artifacts ih =>
    have hcall := ih (sink.accept state a).1 (before ++ [⟨a, (sink.accept state a).2.2⟩])
    obtain ⟨calls, hartifacts, hstate, hfailure, hheld⟩ := hcall
    refine ⟨⟨a, (sink.accept state a).2.2⟩ :: calls, by rw [List.map_cons, hartifacts], ?_, ?_, ?_⟩
    · rw [deliver, deliver]
      simpa [Sink.recorded] using hstate
    · rw [List.forall_mem_cons, ← hfailure, deliver]
      simp
    · intro held hkeeps
      rw [accepted_cons, deliver, ← List.append_assoc]
      have htake := hkeeps state a
      have hrest := hheld held hkeeps
      rw [htake] at hrest
      exact hrest

theorem deliver_failure {σ : Type} {sink : Sink σ} {refuse : Artifact → Option Failure}
    (hd : sink.Decides refuse) (state : σ) (artifacts : List Artifact) :
    (deliver sink state artifacts).failure = artifacts.findSome? refuse := by
  induction artifacts generalizing state with
  | nil => rfl
  | cons a artifacts ih =>
    have hfirst := hd state a
    have hrest := ih (sink.accept state a).1
    rw [deliver, List.findSome?_cons, ← hfirst, ← hrest]
    rcases sink.accept state a with ⟨after, log, failure⟩
    cases failure <;> rfl

theorem deliver_memorySink (refuse : Artifact → Option Failure) (kept artifacts : List Artifact) :
    (deliver (memorySink refuse) kept artifacts).state =
      kept ++ artifacts.filter (fun a => (refuse a).isNone) := by
  induction artifacts generalizing kept with
  | nil => simp [deliver]
  | cons a artifacts ih =>
    rw [deliver]
    cases hrefuse : refuse a with
    | none =>
      have hafter := ih (kept ++ [a])
      simpa [memorySink, hrefuse] using hafter
    | some failure =>
      have hafter := ih kept
      simpa [memorySink, hrefuse] using hafter

end ComponentSplit
