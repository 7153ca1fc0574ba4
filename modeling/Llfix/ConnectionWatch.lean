import Llfix.FixSession
import Llfix.Lib.GuardedRun

/-!
# The connection in the history

`Watch` reads the history of a client: whether its state is live, and how far its connection has
come. A live state is in order on a connection on which a Logon response has arrived and that has
not ended since.

Results:
1. `watch_loggedOn_iff`: what it means that a connection is logged on.
2. `liveLoggedOn_snoc`: a history is in order when each of its entries is.
-/

namespace Llfix

open GuardedRun

/-- How far a connection has come: there is none or it was lost, it is established, a Logon
response has arrived on it. -/
inductive Link
  | down
  | established
  | loggedOn
deriving DecidableEq, Repr

/-- After a loss only a new connection helps. -/
def Link.after : Link → Output → Link
  | _, .connected => .established
  | .established, .logonResponse => .loggedOn
  | _, .connectionLost => .down
  | _, .connectionClosed => .down
  | link, _ => link

structure Watch where
  live : Bool := false
  link : Link := .down
deriving DecidableEq, Repr

namespace Watch

def after (w : Watch) (o : Output) : Watch where
  live := match o with
    | .state st => isStateLive st
    | _ => w.live
  link := w.link.after o

/-- A live state, on a connection that is logged on and not lost. -/
def Sound (w : Watch) : Prop := w.live = true → w.link = .loggedOn

end Watch

/-- What a history has come to. -/
def watch (trace : List Output) : Watch := run Watch.after {} trace

theorem watch_append (trace os : List Output) :
    watch (trace ++ os) = run Watch.after (watch trace) os :=
  run_append _ _ _

theorem watch_snoc (trace : List Output) (o : Output) :
    watch (trace ++ [o]) = (watch trace).after o :=
  watch_append trace [o]

/-- An entry that ends a connection, or begins a new one. -/
def endsConnection : Output → Bool
  | .connected => true
  | .connectionLost => true
  | .connectionClosed => true
  | _ => false

theorem Link.after_eq (link : Link) (o : Output) :
    link.after o =
      if o = .connected then .established
      else if endsConnection o then .down
      else if o = .logonResponse ∧ link = .established then .loggedOn
      else link := by
  cases o <;> cases link <;> simp [Link.after, endsConnection]

/-- A connection that is up stays up, and logged on, until it ends. -/
theorem Link.run_up {os : List Output} (hos : ∀ o ∈ os, endsConnection o = false) {link : Link}
    (hlink : link ≠ .down) :
    run Link.after link os ≠ .down ∧ (link = .loggedOn → run Link.after link os = .loggedOn) := by
  induction os generalizing link with
  | nil => exact ⟨hlink, id⟩
  | cons o os ih =>
    obtain ⟨ho, hos⟩ := List.forall_mem_cons.mp hos
    have hnew : o ≠ .connected := by
      rintro rfl
      cases ho
    have hafter : link.after o ≠ .down ∧ (link = .loggedOn → link.after o = .loggedOn) := by
      rw [Link.after_eq, if_neg hnew, ho, if_neg Bool.false_ne_true]
      split
      · exact ⟨Link.noConfusion, fun _ => rfl⟩
      · exact ⟨hlink, id⟩
    obtain ⟨hup, hlogged⟩ := ih hos hafter.1
    exact ⟨hup, fun h => hlogged (hafter.2 h)⟩

theorem watch_link (trace : List Output) : (watch trace).link = run Link.after .down trace := by
  induction trace using List.reverseRecOn with
  | nil => rfl
  | append_singleton trace o ih =>
    rw [watch_snoc, run_append, ← ih]
    rfl

/-- What `established` stands for. -/
theorem watch_established {trace : List Output} (h : (watch trace).link = .established) :
    ∃ before after, trace = before ++ .connected :: after ∧
      ∀ o ∈ after, endsConnection o = false := by
  induction trace using List.reverseRecOn with
  | nil => cases h
  | append_singleton trace o ih =>
    have hafter : (watch trace).link.after o = .established := by rwa [watch_snoc] at h
    rw [Link.after_eq] at hafter
    split_ifs at hafter with hnew hends hresponse
    · subst hnew
      exact ⟨trace, [], rfl, fun _ hmem => absurd hmem List.not_mem_nil⟩
    · obtain ⟨before, after, rfl, hall⟩ := ih hafter
      refine ⟨before, after ++ [o], by simp, fun o' hmem => ?_⟩
      rcases List.mem_append.mp hmem with hmem | hmem
      · exact hall o' hmem
      · rw [List.mem_singleton.mp hmem]
        exact eq_false_of_ne_true hends

/-- What `loggedOn` stands for: a Logon response on a connection that has not ended since it was
established. -/
theorem watch_loggedOn_iff {trace : List Output} :
    (watch trace).link = .loggedOn ↔
      ∃ before between after, trace = before ++ .connected :: (between ++ .logonResponse :: after) ∧
        ∀ o ∈ between ++ after, endsConnection o = false := by
  constructor
  · intro h
    induction trace using List.reverseRecOn with
    | nil => cases h
    | append_singleton trace o ih =>
      have hafter : (watch trace).link.after o = .loggedOn := by rwa [watch_snoc] at h
      rw [Link.after_eq] at hafter
      split_ifs at hafter with hnew hends hresponse
      · obtain ⟨rfl, hestablished⟩ := hresponse
        obtain ⟨before, between, rfl, hall⟩ := watch_established hestablished
        exact ⟨before, between, [], by simp, by rwa [List.append_nil]⟩
      · obtain ⟨before, between, after, rfl, hall⟩ := ih hafter
        refine ⟨before, between, after ++ [o], by simp, fun o' hmem => ?_⟩
        rw [← List.append_assoc] at hmem
        rcases List.mem_append.mp hmem with hmem | hmem
        · exact hall o' hmem
        · rw [List.mem_singleton.mp hmem]
          exact eq_false_of_ne_true hends
  · rintro ⟨before, between, after, rfl, hall⟩
    have hbetween := fun o hmem => hall o (List.mem_append_left after hmem)
    have hafter := fun o hmem => hall o (List.mem_append_right between hmem)
    have hestablished : Link.established ≠ .down := Link.noConfusion
    have hup := (Link.run_up hbetween hestablished).1
    have hlogged : ∀ link : Link, link ≠ .down → link.after .logonResponse = .loggedOn := by
      intro link hlink
      cases link with
      | down => exact absurd rfl hlink
      | established => rfl
      | loggedOn => rfl
    have hconnected : ∀ link : Link, link.after .connected = .established := by
      intro link
      cases link <;> rfl
    rw [watch_link, run_append, run_cons, run_append, run_cons, hconnected, hlogged _ hup]
    exact (Link.run_up hafter Link.noConfusion).2 rfl

/-- Whenever the state is live, a Logon response has been received on the connection, which has not
been lost since. -/
def LiveLoggedOn (trace : List Output) : Prop := ∀ done, done <+: trace → (watch done).Sound

theorem LiveLoggedOn.initial {trace done : List Output} (h : LiveLoggedOn trace)
    (hdone : done <+: trace) : LiveLoggedOn done :=
  fun before hbefore => h before (hbefore.trans hdone)

theorem liveLoggedOn_nil : LiveLoggedOn [] := by
  intro done hdone
  rw [List.prefix_nil.mp hdone]
  exact fun hlive => Bool.noConfusion hlive

theorem liveLoggedOn_snoc {trace : List Output} {o : Output} :
    LiveLoggedOn (trace ++ [o]) ↔ LiveLoggedOn trace ∧ ((watch trace).after o).Sound := by
  constructor
  · intro h
    refine ⟨h.initial (List.prefix_append _ _), ?_⟩
    rw [← watch_snoc]
    exact h _ (List.prefix_refl _)
  · rintro ⟨htrace, hlast⟩ done hdone
    rcases List.prefix_concat_iff.mp hdone with rfl | hbefore
    · rwa [watch_snoc]
    · exact htrace done hbefore

end Llfix
