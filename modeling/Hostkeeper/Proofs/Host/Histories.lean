import Hostkeeper.Host.World

/-! Commands that are run one after another by tools that may go by all the commands before. A command that
brings something lasting about whenever it is answered in some way, and is run only where that is missing, is
answered so at most once. -/
namespace Hostkeeper

/-- Every command of a run is right at its moment, which the commands before it tell. -/
def Heeds (right : List Command → Command → Prop) (history run : List Command) : Prop :=
  ∀ before c after, run = before ++ c :: after → right (history ++ before) c

namespace Heeds

variable {right : List Command → Command → Prop} {history : List Command}

theorem nil (history : List Command) : Heeds right history [] := by
  intro before c after split
  simp at split

theorem cons_iff {c : Command} {rest : List Command} :
    Heeds right history (c :: rest) ↔ right history c ∧ Heeds right (history ++ [c]) rest := by
  constructor
  · intro heeds
    refine ⟨by simpa using heeds [] c rest rfl,fun before d after split => ?_⟩
    simpa using heeds (c :: before) d after (congrArg (c :: ·) split)
  · rintro ⟨head,tail⟩ before d after split
    cases before with
    | nil =>
      obtain ⟨rfl,-⟩ := List.cons.inj split
      simpa using head
    | cons _ before =>
      obtain ⟨rfl,later⟩ := List.cons.inj split
      simpa using tail before d after later

theorem append_iff {first second : List Command} :
    Heeds right history (first ++ second) ↔ Heeds right history first ∧ Heeds right (history ++ first) second := by
  induction first generalizing history with
  | nil => simp [nil]
  | cons c rest ih => rw [List.cons_append,cons_iff,cons_iff,ih,List.append_assoc,List.singleton_append,and_assoc]

theorem middle {first second later : List Command} (heeds : Heeds right history (first ++ second ++ later)) :
    Heeds right (history ++ first) second := (append_iff.mp (append_iff.mp heeds).1).2

/-- What every right command keeps is kept by a whole run. -/
theorem keeps {run : List Command} (kept : List Command → Prop)
    (step : ∀ h c, right h c → kept h → kept (h ++ [c])) (heeds : Heeds right history run) (start : kept history) :
    kept (history ++ run) := by
  induction run generalizing history with
  | nil => simpa using start
  | cons c rest ih =>
    obtain ⟨head,tail⟩ := cons_iff.mp heeds
    simpa using ih tail (step _ _ head start)

end Heeds

/-- Passes one after another. Between two of them anything may become of the state, but no command is run. -/
inductive Passes {σ ι : Type} (calls : σ → List Command) (pass : ι → σ → σ) (start : σ) : σ → Prop
  | start : Passes calls pass start start
  | pass {s : σ} (input : ι) : Passes calls pass start s → Passes calls pass start (pass input s)
  | meanwhile {s later : σ} : Passes calls pass start s → calls later = calls s → Passes calls pass start later

theorem Passes.heeds {σ ι : Type} {calls : σ → List Command} {pass : ι → σ → σ}
    {right : List Command → Command → Prop}
    (each : ∀ input s, ∃ run, calls (pass input s) = calls s ++ run ∧ Heeds right (calls s) run)
    {start final : σ} (passes : Passes calls pass start final) :
    ∃ run, calls final = calls start ++ run ∧ Heeds right (calls start) run := by
  induction passes with
  | start => exact ⟨[],(List.append_nil _).symm,.nil _⟩
  | @pass s input _ ih =>
    obtain ⟨run,ran,heeds⟩ := ih
    obtain ⟨more,later,also⟩ := each input s
    rw [ran] at later also
    exact ⟨run ++ more,later.trans (List.append_assoc ..),Heeds.append_iff.mpr ⟨heeds,also⟩⟩
  | meanwhile _ same ih => rwa [same]

/-- How often a command gets an answer of some kind in a run. -/
def times (tools : Tools) (c : Command) (kind : Output → Bool) : List Command → List Command → Nat
  | _, [] => 0
  | history, d :: rest =>
    (if d = c ∧ kind (tools history d).output then 1 else 0) + times tools c kind (history ++ [d]) rest

section Times

variable {tools : Tools} {right : List Command → Command → Prop} {c : Command} {kind : Output → Bool}
  {history run : List Command}

theorem times_true (tools : Tools) (history : List Command) :
    times tools c (fun _ => true) history run = run.count c := by
  induction run generalizing history with
  | nil => rfl
  | cons d rest ih => by_cases same : d = c <;> simp [times,ih,same,Nat.add_comm]

variable (done : List Command → Prop)

theorem times_of_done (keeps : ∀ h d, right h d → done h → done (h ++ [d])) (lacking : ∀ h, right h c → ¬done h)
    (heeds : Heeds right history run) (already : done history) : times tools c kind history run = 0 := by
  induction run generalizing history with
  | nil => rfl
  | cons d rest ih =>
    obtain ⟨head,tail⟩ := Heeds.cons_iff.mp heeds
    have other : ¬(d = c ∧ kind (tools history d).output) := fun both => lacking history (both.1 ▸ head) already
    rw [times,if_neg other,ih tail (keeps _ _ head already)]

theorem times_le_one (keeps : ∀ h d, right h d → done h → done (h ++ [d])) (lacking : ∀ h, right h c → ¬done h)
    (brings : ∀ h, right h c → kind (tools h c).output = true → done (h ++ [c])) (heeds : Heeds right history run) :
    times tools c kind history run ≤ 1 := by
  induction run generalizing history with
  | nil => exact Nat.zero_le 1
  | cons d rest ih =>
    obtain ⟨head,tail⟩ := Heeds.cons_iff.mp heeds
    rw [times]
    split
    next now =>
      obtain ⟨rfl,answered⟩ := now
      simp [times_of_done done keeps lacking tail (brings _ head answered)]
    next => simpa using ih tail

end Times

end Hostkeeper
