import ZKAPAuthorizer.Spending
import Mathlib.Logic.Relation
import Mathlib.Algebra.Order.BigOperators.Group.List
import Mathlib.Algebra.Order.Ring.Nat

/-!
# Spending runs

A client of one ``SpendingController`` draws groups with ``get``, derives groups
with ``split`` and ``expand``, and ends each group with one of ``mark_spent``,
``mark_invalid`` and ``reset``.  `Step` is one such call on the groups the client
holds: ``split`` and ``expand`` replace their group by their results, a terminal
call drops it.  A call is a step when it completes.  `Attempt` adds the calls that
raise after their draw, a ``get`` alone or inside an ``expand``: the client then holds
what it held, and the drawn tokens are in no group.

**Results.**
* `reported_perm_drawn`: in a run whose calls complete, once every group has had its
  terminal call, the tokens reported to the store are a permutation of the tokens the
  store handed out, provided ``tokens_to_passes`` returns one pass per token.  A ``get``
  on a message that is not UTF-8 raises after its draw and breaks this
  (`get_strands_token_on_non_utf8_message`).
* `reported_held_subperm_drawn`: in every run, with raising calls, the tokens reported
  and held are a sub-multiset of the tokens drawn: no token is duplicated, though the
  tokens of a raising call are lost.
* `held_nodup`: if the store never hands out a token that is out, no token is in two
  live groups, in any run.
* `derived_group_bound`: when ``tokens_to_passes`` computes each pass from its
  message and token, every group derived from ``get(m, n)`` by ``split`` and
  ``expand`` has message `m` and only passes computed for `m`.
-/

namespace ZKAPAuthorizer
namespace Spending

variable {UnblindedToken Pass : Type}

/-- The tokens a store call hands out. -/
def StoreCall.drawnTokens : StoreCall UnblindedToken → List UnblindedToken
  | .getUnblindedTokens _ tokens => tokens
  | _ => []

/-- The tokens a store call hands back: the argument of a discard, invalidate or reset. -/
def StoreCall.reportedTokens : StoreCall UnblindedToken → List UnblindedToken
  | .getUnblindedTokens _ _ => []
  | .discardUnblindedTokens tokens => tokens
  | .invalidateUnblindedTokens _ tokens => tokens
  | .resetUnblindedTokens tokens => tokens

/-- Every token the store handed out, in order. -/
def drawn (log : StoreLog UnblindedToken) : List UnblindedToken :=
  log.flatMap StoreCall.drawnTokens

/-- Every token handed back to the store, in order. -/
def reported (log : StoreLog UnblindedToken) : List UnblindedToken :=
  log.flatMap StoreCall.reportedTokens

/-- The tokens of the groups a client holds. -/
def held (live : List (PassGroup UnblindedToken Pass)) : List UnblindedToken :=
  live.flatMap PassGroup.unblindedTokens

@[simp] theorem drawn_append (log log' : StoreLog UnblindedToken) :
    drawn (log ++ log') = drawn log ++ drawn log' :=
  List.flatMap_append _ _ _

@[simp] theorem reported_append (log log' : StoreLog UnblindedToken) :
    reported (log ++ log') = reported log ++ reported log' :=
  List.flatMap_append _ _ _

@[simp] theorem drawn_singleton (call : StoreCall UnblindedToken) :
    drawn [call] = call.drawnTokens :=
  List.append_nil _

@[simp] theorem reported_singleton (call : StoreCall UnblindedToken) :
    reported [call] = call.reportedTokens :=
  List.append_nil _

@[simp] theorem held_cons (g : PassGroup UnblindedToken Pass) (live : List (PassGroup UnblindedToken Pass)) :
    held (g :: live) = g.unblindedTokens ++ held live :=
  List.flatMap_cons _ _ _

/-- The groups a client holds and the store log. -/
structure Lifecycle (UnblindedToken Pass : Type) where
  live : List (PassGroup UnblindedToken Pass)
  log : StoreLog UnblindedToken

/-- One completed call of the client.  The group it works on is the first one held;
`reorder` brings any held group to the front. -/
inductive Step (c : SpendingController UnblindedToken Pass) :
    Lifecycle UnblindedToken Pass → Lifecycle UnblindedToken Pass → Prop
  | get {live log message numPasses g log'} :
      (c.get message numPasses).run log = .ok g log' → Step c ⟨live, log⟩ ⟨g :: live, log'⟩
  | split {g live log} (selectIndices : ℤ → Bool) :
      Step c ⟨g :: live, log⟩
        ⟨(g.split selectIndices).1 :: (g.split selectIndices).2 :: live, log⟩
  | expand {g live log byAmount g' log'} :
      (g.expand byAmount).run log = .ok g' log' → Step c ⟨g :: live, log⟩ ⟨g' :: live, log'⟩
  | markSpent {g live log} : Step c ⟨g :: live, log⟩ ⟨live, logAfter (g.markSpent.run log)⟩
  | markInvalid {g live log} (reason : String) :
      Step c ⟨g :: live, log⟩ ⟨live, logAfter ((g.markInvalid reason).run log)⟩
  | reset {g live log} : Step c ⟨g :: live, log⟩ ⟨live, logAfter (g.reset.run log)⟩
  | reorder {live live' log} : live.Perm live' → Step c ⟨live, log⟩ ⟨live', log⟩

/-- The states a client of `c` reaches from holding nothing with an empty log. -/
def Reachable (c : SpendingController UnblindedToken Pass) (s : Lifecycle UnblindedToken Pass) :
    Prop :=
  Relation.ReflTransGen (Step c) ⟨[], []⟩ s

/-- One call of the client, completed or raising.  A ``get`` that raises, alone or inside
an ``expand``, leaves the client holding what it held; a terminal call that raises is
already a `Step`, as its store call is logged whether or not the store raises. -/
inductive Attempt (c : SpendingController UnblindedToken Pass) :
    Lifecycle UnblindedToken Pass → Lifecycle UnblindedToken Pass → Prop
  | step {s s'} : Step c s s' → Attempt c s s'
  | getRaises {live log message numPasses e log'} :
      (c.get message numPasses).run log = .error e log' → Attempt c ⟨live, log⟩ ⟨live, log'⟩
  | expandRaises {g live log byAmount e log'} :
      (g.expand byAmount).run log = .error e log' → Attempt c ⟨g :: live, log⟩ ⟨g :: live, log'⟩

/-! ## Conservation -/

section Conservation

variable (c : SpendingController UnblindedToken Pass)

/-- Every held group came from `c`, and the reported and the held tokens together are
the drawn tokens. -/
structure Conserving (s : Lifecycle UnblindedToken Pass) : Prop where
  factory_eq : ∀ g ∈ s.live, g.factory = c
  perm : (reported s.log ++ held s.live).Perm (drawn s.log)

variable {c}

theorem perm_append_middle {α : Type} (reported tokens held : List α) :
    (reported ++ (tokens ++ held)).Perm (reported ++ held ++ tokens) := by
  rw [List.append_assoc]
  exact List.perm_append_comm.append_left reported

/-- One pass per token: then the tokens of a group ``get`` returns are the drawn tokens. -/
theorem get_unblindedTokens
    (hpasses : ∀ message tokens passes, c.tokensToPasses message tokens = .ok passes →
      passes.length = tokens.length)
    {message : Bytes} {numPasses : ℤ} {log log' : StoreLog UnblindedToken}
    {g : PassGroup UnblindedToken Pass} (hget : (c.get message numPasses).run log = .ok g log') :
    g.factory = c ∧ drawn log' = drawn log ++ g.unblindedTokens ∧ reported log' = reported log := by
  obtain ⟨tokens, passes, -, hconv, rfl, rfl⟩ := c.get_ok hget
  refine ⟨rfl, ?_, by simp [reported, StoreCall.reportedTokens]⟩
  simp [drawn, StoreCall.drawnTokens, PassGroup.unblindedTokens,
    List.map_fst_zip _ _ (hpasses _ _ _ hconv).ge]

/-- A terminal call drops its group and hands the group's tokens back in one store call. -/
theorem terminal_effect {g : PassGroup UnblindedToken Pass} {live : List (PassGroup UnblindedToken Pass)}
    {log : StoreLog UnblindedToken} {call : StoreCall UnblindedToken}
    (hreported : call.reportedTokens = g.unblindedTokens) (hdrawn : call.drawnTokens = []) :
    drawn (log ++ [call]) = drawn log ++ [] ∧
      (reported (log ++ [call]) ++ held live).Perm (reported log ++ held (g :: live) ++ []) := by
  simp [reported, drawn, hreported, hdrawn]

/-- **What one call does to the tokens.**  Every held group stays a group of `c`; the call
draws `fresh` tokens, and the tokens reported and held afterwards are those reported and
held before together with the fresh ones. -/
theorem Step.effect
    (hpasses : ∀ message tokens passes, c.tokensToPasses message tokens = .ok passes →
      passes.length = tokens.length)
    {s s' : Lifecycle UnblindedToken Pass} (hstep : Step c s s')
    (hfactory : ∀ g ∈ s.live, g.factory = c) :
    (∀ g ∈ s'.live, g.factory = c) ∧ ∃ fresh, drawn s'.log = drawn s.log ++ fresh ∧
      (reported s'.log ++ held s'.live).Perm (reported s.log ++ held s.live ++ fresh) := by
  cases hstep with
  | get hget =>
      obtain ⟨hfac, hdrawn, hrep⟩ := get_unblindedTokens hpasses hget
      exact ⟨by simpa [hfac] using hfactory, _, hdrawn, by simpa [hrep] using perm_append_middle _ _ _⟩
  | @split g live log selectIndices =>
      have hg := hfactory g (List.mem_cons_self _ _)
      refine ⟨by simpa [hg] using fun g' hg' => hfactory g' (List.mem_cons_of_mem _ hg'), [],
        (List.append_nil _).symm, ?_⟩
      have hsplit := ((g.split_unblindedTokens_perm selectIndices).append_right (held live)).append_left
        (reported log)
      simpa only [held_cons, List.append_assoc, List.append_nil] using hsplit
  | @expand g live log byAmount g' log' hexpand =>
      obtain ⟨other, hget, rfl⟩ := g.expand_ok hexpand
      have hg := hfactory g (List.mem_cons_self _ _)
      rw [hg] at hget
      obtain ⟨-, hdrawn, hrep⟩ := get_unblindedTokens hpasses hget
      refine ⟨by simpa [hg] using hfactory, _, hdrawn, ?_⟩
      simpa [hrep] using
        perm_append_middle (reported log ++ g.unblindedTokens) other.unblindedTokens (held live)
  | markSpent =>
      rw [PassGroup.logAfter_markSpent]
      exact ⟨fun g' hg' => hfactory g' (List.mem_cons_of_mem _ hg'), [], terminal_effect rfl rfl⟩
  | markInvalid reason =>
      rw [PassGroup.logAfter_markInvalid]
      exact ⟨fun g' hg' => hfactory g' (List.mem_cons_of_mem _ hg'), [], terminal_effect rfl rfl⟩
  | reset =>
      rw [PassGroup.logAfter_reset]
      exact ⟨fun g' hg' => hfactory g' (List.mem_cons_of_mem _ hg'), [], terminal_effect rfl rfl⟩
  | reorder hlive =>
      refine ⟨fun g' hg' => hfactory g' (hlive.mem_iff.mpr hg'), [], (List.append_nil _).symm, ?_⟩
      rw [List.append_nil]
      exact ((hlive.flatMap_right _).append_left _).symm

theorem Conserving.step
    (hpasses : ∀ message tokens passes, c.tokensToPasses message tokens = .ok passes →
      passes.length = tokens.length)
    {s s' : Lifecycle UnblindedToken Pass} (hinv : Conserving c s) (hstep : Step c s s') :
    Conserving c s' := by
  obtain ⟨hfactory, fresh, hdrawn, hperm⟩ := hstep.effect hpasses hinv.factory_eq
  exact ⟨hfactory, by rw [hdrawn]; exact hperm.trans (hinv.perm.append_right fresh)⟩

/-- The invariant holds in every reachable state. -/
theorem Conserving.reachable
    (hpasses : ∀ message tokens passes, c.tokensToPasses message tokens = .ok passes →
      passes.length = tokens.length)
    {s : Lifecycle UnblindedToken Pass} (hreach : Reachable c s) : Conserving c s := by
  induction hreach with
  | refl => exact ⟨by simp, by simp [reported, drawn, held]⟩
  | tail _ hstep ih => exact ih.step hpasses hstep

/-- **No token lost, none duplicated.**  If ``tokens_to_passes`` returns one pass per token,
then in any run in which every group has had its terminal call, the tokens handed to
``discard``, ``invalidate`` and ``reset`` are a permutation of the tokens the store
handed out. -/
theorem reported_perm_drawn
    (hpasses : ∀ message tokens passes, c.tokensToPasses message tokens = .ok passes →
      passes.length = tokens.length)
    {s : Lifecycle UnblindedToken Pass} (hreach : Reachable c s) (hdone : s.live = []) :
    (reported s.log).Perm (drawn s.log) := by
  simpa [hdone, held] using (Conserving.reachable hpasses hreach).perm

/-- A store that hands out a fresh token on every draw, and passes that add 100. -/
def exampleController : SpendingController ℕ ℕ where
  getUnblindedTokens := fun log _ => .ok [log.length]
  discardUnblindedTokens := fun _ _ => .ok ()
  invalidateUnblindedTokens := fun _ _ _ => .ok ()
  resetUnblindedTokens := fun _ _ => .ok ()
  tokensToPasses := fun _ tokens => .ok (tokens.map (· + 100))

theorem exampleController_get (log : StoreLog ℕ) :
    (exampleController.get [] 1).run log =
      .ok ⟨[], exampleController, [(log.length, log.length + 100)]⟩
        (log ++ [.getUnblindedTokens 1 [log.length]]) := by
  obtain ⟨text, htext⟩ := decodeUtf8_nil
  rw [SpendingController.get_run]
  simp only [exampleController, htext]
  rfl

/-- Drawing one token and spending it: the discarded tokens are the drawn ones. -/
theorem reported_perm_drawn_example :
    (reported [StoreCall.getUnblindedTokens 1 [0], .discardUnblindedTokens [0]]).Perm
      (drawn [StoreCall.getUnblindedTokens 1 [0], .discardUnblindedTokens [0]]) :=
  @reported_perm_drawn ℕ ℕ exampleController
    (fun _ tokens passes hconv => by cases hconv; simp)
    ⟨[], [.getUnblindedTokens 1 [0], .discardUnblindedTokens [0]]⟩
    (Relation.ReflTransGen.tail (Relation.ReflTransGen.single (Step.get (exampleController_get [])))
      Step.markSpent)
    rfl

/-- A ``get`` whose message is not UTF-8 draws token `0` and raises in the ``GET_PASSES``
log call.  The client holds no group, so every group has had its terminal call, and
``tokens_to_passes`` returns one pass per token; yet token `0` was never reported. -/
theorem get_strands_token_on_non_utf8_message :
    Relation.ReflTransGen (Attempt exampleController) ⟨[], []⟩ ⟨[], [.getUnblindedTokens 1 [0]]⟩ ∧
      ¬(reported [StoreCall.getUnblindedTokens 1 [0]]).Perm (drawn [StoreCall.getUnblindedTokens 1 [0]]) := by
  refine ⟨.single (@Attempt.getRaises ℕ ℕ exampleController [] [] [255] 1
    ⟨true, some "'utf-8' codec can't decode"⟩ _ ?_), ?_⟩
  · rw [SpendingController.get_run]
    simp only [exampleController, decodeUtf8_ff]
    rfl
  · simp [reported, drawn, StoreCall.reportedTokens, StoreCall.drawnTokens]

/-! ## Calls that raise -/

/-- Every held group came from `c`, and the reported and the held tokens, with the tokens
that raising calls drew and left in no group, are the drawn tokens. -/
structure Accounted (c : SpendingController UnblindedToken Pass) (s : Lifecycle UnblindedToken Pass) :
    Prop where
  factory_eq : ∀ g ∈ s.live, g.factory = c
  perm : ∃ stranded, (reported s.log ++ held s.live ++ stranded).Perm (drawn s.log)

/-- A ``get`` that raises strands what it drew. -/
theorem Accounted.get_error {live : List (PassGroup UnblindedToken Pass)}
    {log log' : StoreLog UnblindedToken} (hinv : Accounted c ⟨live, log⟩) {message : Bytes}
    {numPasses : ℤ} {e : PyException} (hget : (c.get message numPasses).run log = .error e log') :
    Accounted c ⟨live, log'⟩ := by
  obtain ⟨hfactory, stranded, hperm⟩ := hinv
  rcases c.get_error hget with rfl | ⟨tokens, -, rfl⟩
  · exact ⟨hfactory, stranded, hperm⟩
  · refine ⟨hfactory, stranded ++ tokens, ?_⟩
    simpa [reported, drawn, StoreCall.reportedTokens, StoreCall.drawnTokens] using
      hperm.append_right tokens

theorem Accounted.attempt
    (hpasses : ∀ message tokens passes, c.tokensToPasses message tokens = .ok passes →
      passes.length = tokens.length)
    {s s' : Lifecycle UnblindedToken Pass} (hinv : Accounted c s) (hattempt : Attempt c s s') :
    Accounted c s' := by
  cases hattempt with
  | step hstep =>
      obtain ⟨hfactory, stranded, hperm⟩ := hinv
      obtain ⟨hfactory', fresh, hdrawn, hperm'⟩ := hstep.effect hpasses hfactory
      refine ⟨hfactory', stranded, ?_⟩
      rw [hdrawn]
      calc List.Perm (reported s'.log ++ held s'.live ++ stranded)
            (reported s.log ++ held s.live ++ fresh ++ stranded) := hperm'.append_right _
        List.Perm _ (reported s.log ++ held s.live ++ stranded ++ fresh) := by
            simpa only [List.append_assoc] using
              (@List.perm_append_comm _ fresh stranded).append_left (reported s.log ++ held s.live)
        List.Perm _ (drawn s.log ++ fresh) := hperm.append_right _
  | getRaises hget => exact hinv.get_error hget
  | @expandRaises g live log byAmount e log' hexpand =>
      have hget := g.expand_error hexpand
      rw [hinv.factory_eq g (List.mem_cons_self _ _)] at hget
      exact hinv.get_error hget

theorem Accounted.reachable
    (hpasses : ∀ message tokens passes, c.tokensToPasses message tokens = .ok passes →
      passes.length = tokens.length)
    {s : Lifecycle UnblindedToken Pass} (hreach : Relation.ReflTransGen (Attempt c) ⟨[], []⟩ s) :
    Accounted c s := by
  induction hreach with
  | refl => exact ⟨by simp, [], by simp [reported, drawn, held]⟩
  | tail _ hattempt ih => exact ih.attempt hpasses hattempt

/-- **No token duplicated, even when calls raise.**  If ``tokens_to_passes`` returns one
pass per token, then in any run, with ``get`` and ``expand`` calls that raise after their
draw, the tokens reported to the store together with the tokens of the held groups are a
sub-multiset of the tokens the store handed out. -/
theorem reported_held_subperm_drawn
    (hpasses : ∀ message tokens passes, c.tokensToPasses message tokens = .ok passes →
      passes.length = tokens.length)
    {s : Lifecycle UnblindedToken Pass} (hreach : Relation.ReflTransGen (Attempt c) ⟨[], []⟩ s) :
    (reported s.log ++ held s.live).Subperm (drawn s.log) := by
  obtain ⟨-, stranded, hperm⟩ := Accounted.reachable hpasses hreach
  exact (List.sublist_append_left _ stranded).subperm.trans hperm.subperm

/-- A ``get`` whose ``tokens_to_passes`` raises strands its token: nothing is held or
reported, and the token was drawn. -/
theorem reported_held_subperm_drawn_example :
    (reported [StoreCall.getUnblindedTokens 1 [0]] ++
      held ([] : List (PassGroup ℕ ℕ))).Subperm (drawn [StoreCall.getUnblindedTokens 1 [0]]) :=
  @reported_held_subperm_drawn ℕ ℕ exampleFailingController (fun _ _ _ hconv => by cases hconv)
    ⟨[], [.getUnblindedTokens 1 [0]]⟩
    (.single (@Attempt.getRaises ℕ ℕ exampleFailingController [] [] [] 1
      ⟨true, some "tokens_to_passes failed"⟩ [.getUnblindedTokens 1 [0]]
      (by rw [SpendingController.get_run]; rfl)))

/-- What a call adds to the store log: nothing, one draw the store answered, or one call
that draws nothing. -/
theorem Attempt.log_cases {s s' : Lifecycle UnblindedToken Pass} (hattempt : Attempt c s s')
    (hfactory : ∀ g ∈ s.live, g.factory = c) :
    s'.log = s.log ∨
      (∃ numPasses tokens, c.getUnblindedTokens s.log numPasses = .ok tokens ∧
        s'.log = s.log ++ [.getUnblindedTokens numPasses tokens]) ∨
      ∃ call : StoreCall UnblindedToken, call.drawnTokens = [] ∧ s'.log = s.log ++ [call] := by
  have hdraw : ∀ {log log' : StoreLog UnblindedToken} {message numPasses}
      {g : PassGroup UnblindedToken Pass}, (c.get message numPasses).run log = .ok g log' →
      ∃ numPasses tokens, c.getUnblindedTokens log numPasses = .ok tokens ∧
        log' = log ++ [.getUnblindedTokens numPasses tokens] := fun hget => by
    obtain ⟨tokens, -, hdraw, -, -, rfl⟩ := c.get_ok hget
    exact ⟨_, tokens, hdraw, rfl⟩
  have hraise : ∀ {log log' : StoreLog UnblindedToken} {message numPasses e},
      (c.get message numPasses).run log = .error e log' →
      log' = log ∨ ∃ numPasses tokens, c.getUnblindedTokens log numPasses = .ok tokens ∧
        log' = log ++ [.getUnblindedTokens numPasses tokens] := fun hget => by
    rcases c.get_error hget with rfl | ⟨tokens, hdraw, rfl⟩
    · exact .inl rfl
    · exact .inr ⟨_, tokens, hdraw, rfl⟩
  cases hattempt with
  | step hstep =>
      cases hstep with
      | get hget => exact .inr (.inl (hdraw hget))
      | split => exact .inl rfl
      | @expand g live log byAmount g' log' hexpand =>
          obtain ⟨other, hget, -⟩ := g.expand_ok hexpand
          rw [hfactory g (List.mem_cons_self _ _)] at hget
          exact .inr (.inl (hdraw hget))
      | markSpent => exact .inr (.inr ⟨.discardUnblindedTokens _, rfl, PassGroup.logAfter_markSpent _ _⟩)
      | markInvalid reason =>
          exact .inr (.inr ⟨.invalidateUnblindedTokens _ _, rfl, PassGroup.logAfter_markInvalid _ _ _⟩)
      | reset => exact .inr (.inr ⟨.resetUnblindedTokens _, rfl, PassGroup.logAfter_reset _ _⟩)
      | reorder _ => exact .inl rfl
  | getRaises hget => exact (hraise hget).imp_right .inl
  | @expandRaises g live log byAmount e log' hexpand =>
      have hget := g.expand_error hexpand
      rw [hfactory g (List.mem_cons_self _ _)] at hget
      exact (hraise hget).imp_right .inl

end Conservation

/-! ## Distinct tokens -/

section Distinct

variable [DecidableEq UnblindedToken] {c : SpendingController UnblindedToken Pass}

/-- The store's side of the bargain: ``get_unblinded_tokens`` hands out distinct tokens,
none of them out (a token is out when it was drawn more often than handed back). -/
def HandsOutFresh (c : SpendingController UnblindedToken Pass) : Prop :=
  ∀ log numPasses tokens, c.getUnblindedTokens log numPasses = .ok tokens →
    tokens.Nodup ∧ ∀ token ∈ tokens, (drawn log).count token ≤ (reported log).count token

/-- No token is out twice: drawn at most once more than it was handed back. -/
def OutAtMostOnce (log : StoreLog UnblindedToken) : Prop :=
  ∀ token, (drawn log).count token ≤ (reported log).count token + 1

theorem Attempt.outAtMostOnce (hstore : HandsOutFresh c) {s s' : Lifecycle UnblindedToken Pass}
    (hattempt : Attempt c s s') (hfactory : ∀ g ∈ s.live, g.factory = c)
    (hlog : OutAtMostOnce s.log) : OutAtMostOnce s'.log := by
  intro token
  have hbefore := hlog token
  rcases hattempt.log_cases hfactory with hsame | ⟨numPasses, tokens, hdraw, hlog'⟩ | ⟨call, hcall, hlog'⟩
  · rwa [hsame]
  · obtain ⟨hnodup, hfresh⟩ := hstore _ _ _ hdraw
    rw [hlog', drawn_append, reported_append, drawn_singleton, reported_singleton,
      List.count_append, List.count_append]
    simp only [StoreCall.drawnTokens, StoreCall.reportedTokens, List.count_nil]
    by_cases htoken : token ∈ tokens
    · have := hfresh token htoken
      rw [List.count_eq_one_of_mem hnodup htoken]
      omega
    · rw [List.count_eq_zero_of_not_mem htoken]
      omega
  · rw [hlog', drawn_append, reported_append, drawn_singleton, reported_singleton,
      List.count_append, List.count_append, hcall, List.count_nil]
    omega

/-- **A token is in at most one live group.**  If the store hands out distinct tokens, none
of them out, and ``tokens_to_passes`` returns one pass per token, then in every run, with
calls that raise, the held groups hold no token twice. -/
theorem held_nodup (hstore : HandsOutFresh c)
    (hpasses : ∀ message tokens passes, c.tokensToPasses message tokens = .ok passes →
      passes.length = tokens.length)
    {s : Lifecycle UnblindedToken Pass} (hreach : Relation.ReflTransGen (Attempt c) ⟨[], []⟩ s) :
    (held s.live).Nodup := by
  have hlog : OutAtMostOnce s.log := by
    induction hreach with
    | refl => intro token; simp [drawn, reported]
    | tail hprefix hattempt ih =>
        exact hattempt.outAtMostOnce hstore (Accounted.reachable hpasses hprefix).factory_eq ih
  obtain ⟨-, stranded, hperm⟩ := Accounted.reachable hpasses hreach
  rw [List.nodup_iff_count_le_one]
  intro token
  have hcount := hperm.count_eq token
  have hout := hlog token
  simp only [List.count_append] at hcount
  omega

/-- A store that hands out, on every draw, one token larger than the sum of all tokens it
handed out before, and passes that add 100. -/
def freshController : SpendingController ℕ ℕ where
  getUnblindedTokens := fun log _ => .ok [(drawn log).sum + 1]
  discardUnblindedTokens := fun _ _ => .ok ()
  invalidateUnblindedTokens := fun _ _ _ => .ok ()
  resetUnblindedTokens := fun _ _ => .ok ()
  tokensToPasses := fun _ tokens => .ok (tokens.map (· + 100))

theorem freshController_handsOutFresh : HandsOutFresh freshController := by
  intro log _ tokens hdraw
  cases hdraw
  refine ⟨List.nodup_singleton _, fun token htoken => ?_⟩
  rw [List.mem_singleton.mp htoken, List.count_eq_zero_of_not_mem fun hmem => ?_]
  · exact Nat.zero_le _
  · have := List.le_sum_of_mem hmem
    omega

theorem freshController_get (log : StoreLog ℕ) :
    (freshController.get [] 1).run log =
      .ok ⟨[], freshController, [((drawn log).sum + 1, (drawn log).sum + 101)]⟩
        (log ++ [.getUnblindedTokens 1 [(drawn log).sum + 1]]) := by
  obtain ⟨text, htext⟩ := decodeUtf8_nil
  rw [SpendingController.get_run]
  simp only [freshController, htext]
  rfl

/-- Two groups drawn one after the other from the fresh store hold tokens `2` and `1`. -/
theorem held_nodup_example :
    (held [PassGroup.mk [] freshController [(2, 102)], ⟨[], freshController, [(1, 101)]⟩]).Nodup :=
  held_nodup freshController_handsOutFresh (fun _ tokens passes hconv => by cases hconv; simp)
    (.tail (.single (Attempt.step (Step.get (freshController_get [])))) (Attempt.step (Step.get (freshController_get _))))

end Distinct

/-! ## Message binding -/

/-- A group derives from another by one ``split``, either half, or one ``expand``. -/
inductive Derives : PassGroup UnblindedToken Pass → PassGroup UnblindedToken Pass → Prop
  | splitFirst (g : PassGroup UnblindedToken Pass) (selectIndices : ℤ → Bool) :
      Derives g (g.split selectIndices).1
  | splitSecond (g : PassGroup UnblindedToken Pass) (selectIndices : ℤ → Bool) :
      Derives g (g.split selectIndices).2
  | expand {g g' : PassGroup UnblindedToken Pass} {byAmount : ℤ}
      {log log' : StoreLog UnblindedToken} :
      (g.expand byAmount).run log = .ok g' log' → Derives g g'

section Binding

variable {c : SpendingController UnblindedToken Pass} {f : Bytes → UnblindedToken → Pass}

/-- A group of `c` for `message` whose every pass is `f message` of its token. -/
def BoundTo (c : SpendingController UnblindedToken Pass) (f : Bytes → UnblindedToken → Pass)
    (message : Bytes) (g : PassGroup UnblindedToken Pass) : Prop :=
  g.message = message ∧ g.factory = c ∧ ∀ pair ∈ g.tokens, pair.2 = f message pair.1

theorem mem_zip_map_self {α β : Type} (h : α → β) :
    ∀ (tokens : List α) (pair : α × β), pair ∈ tokens.zip (tokens.map h) → pair.2 = h pair.1
  | [], _, hpair => by simp at hpair
  | token :: tokens, pair, hpair => by
      rcases List.mem_cons.mp hpair with rfl | hpair
      · rfl
      · exact mem_zip_map_self h tokens pair hpair

theorem get_boundTo (hf : ∀ message tokens, c.tokensToPasses message tokens = .ok (tokens.map (f message)))
    {message : Bytes} {numPasses : ℤ} {log log' : StoreLog UnblindedToken}
    {g : PassGroup UnblindedToken Pass} (hget : (c.get message numPasses).run log = .ok g log') :
    BoundTo c f message g := by
  obtain ⟨tokens, passes, -, hconv, rfl, -⟩ := c.get_ok hget
  rw [hf] at hconv
  cases hconv
  exact ⟨rfl, rfl, mem_zip_map_self (f message) tokens⟩

theorem Derives.boundTo (hf : ∀ message tokens, c.tokensToPasses message tokens = .ok (tokens.map (f message)))
    {message : Bytes} {g g' : PassGroup UnblindedToken Pass} (hderives : Derives g g')
    (hbound : BoundTo c f message g) : BoundTo c f message g' := by
  obtain ⟨hmessage, hfactory, hpairs⟩ := hbound
  cases hderives with
  | splitFirst selectIndices =>
      refine ⟨by simpa using hmessage, by simpa using hfactory, fun pair hpair => hpairs pair ?_⟩
      exact (g.split_tokens_perm selectIndices).subset (List.mem_append_left _ hpair)
  | splitSecond selectIndices =>
      refine ⟨by simpa using hmessage, by simpa using hfactory, fun pair hpair => hpairs pair ?_⟩
      exact (g.split_tokens_perm selectIndices).subset (List.mem_append_right _ hpair)
  | expand hexpand =>
      obtain ⟨other, hget, rfl⟩ := g.expand_ok hexpand
      rw [hfactory, hmessage] at hget
      obtain ⟨-, -, hother⟩ := get_boundTo hf hget
      refine ⟨hmessage, hfactory, fun pair hpair => ?_⟩
      rcases List.mem_append.mp (by simpa using hpair) with hpair | hpair
      · exact hpairs pair hpair
      · exact hother pair hpair

/-- **Passes stay bound to their group's message.**  If ``tokens_to_passes(m, ts)`` is
``[f(m, t) for t in ts]``, then every group derived from ``get(m, n)`` by any sequence of
``split`` and ``expand`` has message `m` and pairs each token `t` with `f(m, t)`. -/
theorem derived_group_bound
    (hf : ∀ message tokens, c.tokensToPasses message tokens = .ok (tokens.map (f message)))
    {message : Bytes} {numPasses : ℤ} {log log' : StoreLog UnblindedToken}
    {g g' : PassGroup UnblindedToken Pass} (hget : (c.get message numPasses).run log = .ok g log')
    (hderived : Relation.ReflTransGen Derives g g') :
    g'.message = message ∧ ∀ pair ∈ g'.tokens, pair.2 = f message pair.1 := by
  have hbound : BoundTo c f message g' := by
    induction hderived with
    | refl => exact get_boundTo hf hget
    | tail _ hstep ih => exact hstep.boundTo hf ih
  exact ⟨hbound.1, hbound.2.2⟩

end Binding

/-- ``expand(1)`` on the group drawn in the example draws token `1` for the same message. -/
theorem exampleController_expand :
    ((⟨[], exampleController, [(0, 100)]⟩ : PassGroup ℕ ℕ).expand 1).run [.getUnblindedTokens 1 [0]] =
      .ok ⟨[], exampleController, [(0, 100), (1, 101)]⟩
        [.getUnblindedTokens 1 [0], .getUnblindedTokens 1 [1]] := by
  have hget := exampleController_get [.getUnblindedTokens 1 [0]]
  simp only [PassGroup.expand, run_apply, bind, EStateM.bind] at hget ⊢
  rw [hget]
  rfl

/-- The group drawn in the example, expanded by one pass and split to keep its second pair,
keeps its message and pairs token `1` with `1 + 100`. -/
theorem derived_group_bound_example :
    ((⟨[], exampleController, [(0, 100), (1, 101)]⟩ : PassGroup ℕ ℕ).split (· == 1)).1.message = [] ∧
      ∀ pair ∈ ((⟨[], exampleController, [(0, 100), (1, 101)]⟩ : PassGroup ℕ ℕ).split (· == 1)).1.tokens,
        pair.2 = (fun _ token => token + 100) ([] : Bytes) pair.1 :=
  @derived_group_bound ℕ ℕ exampleController (fun _ token => token + 100)
    (fun _ _ => rfl) [] 1 [] [.getUnblindedTokens 1 [0]] _ _ (exampleController_get [])
    (.tail (.single (Derives.expand exampleController_expand)) (Derives.splitFirst _ _))

end Spending
end ZKAPAuthorizer
