import ZKAPAuthorizer.Common
import Mathlib.Data.List.FinRange

/-!
# Spending passes

``PassGroup`` and ``SpendingController`` from ``spending.py``.

The controller reaches its token store through four callables.  The store is an
outside collaborator whose answers may depend on everything asked of it before,
so each callable receives the log of the earlier store calls (`StoreLog`), and a
controller operation is an `EStateM` computation that appends to that log and may
raise.  Unblinded tokens and passes are opaque here and are type parameters.

**Results.**
* `PassGroup.split_eq_filter`: ``split`` keeps the pairs at the selected positions, in
  order, and the others, in order; both halves keep the message and the factory.
* `SpendingController.get_only_draws`: ``get`` makes one store call, the draw, whether it
  returns or raises; an exception after the draw propagates, and the drawn tokens are in
  no group and are not reset.
-/

namespace ZKAPAuthorizer
namespace Spending

variable {UnblindedToken Pass : Type}

/-- A call the controller makes on its token store. -/
inductive StoreCall (UnblindedToken : Type)
  /-- ``get_unblinded_tokens(count)``, with the tokens it returned -/
  | getUnblindedTokens (count : ℤ) (tokens : List UnblindedToken)
  | discardUnblindedTokens (tokens : List UnblindedToken)
  | invalidateUnblindedTokens (reason : String) (tokens : List UnblindedToken)
  | resetUnblindedTokens (tokens : List UnblindedToken)

/-- The calls made on the store so far, oldest first. -/
abbrev StoreLog (UnblindedToken : Type) := List (StoreCall UnblindedToken)

/-- Computations of the spending layer. -/
abbrev SpendM (UnblindedToken : Type) := EStateM PyException (StoreLog UnblindedToken)

/-- ``SpendingController``: the store's four callables, each answering in view of the
earlier calls, and ``tokens_to_passes``. -/
structure SpendingController (UnblindedToken Pass : Type) where
  getUnblindedTokens : StoreLog UnblindedToken → ℤ → Except PyException (List UnblindedToken)
  discardUnblindedTokens :
    StoreLog UnblindedToken → List UnblindedToken → Except PyException Unit
  invalidateUnblindedTokens :
    StoreLog UnblindedToken → String → List UnblindedToken → Except PyException Unit
  resetUnblindedTokens : StoreLog UnblindedToken → List UnblindedToken → Except PyException Unit
  tokensToPasses : Bytes → List UnblindedToken → Except PyException (List Pass)

/-- ``PassGroup``: the request-binding message, the factory that made the group and its
``(token, pass)`` pairs. -/
structure PassGroup (UnblindedToken Pass : Type) where
  message : Bytes
  factory : SpendingController UnblindedToken Pass
  tokens : List (UnblindedToken × Pass)

/-- The store log at the end of a computation, whether it returned or raised. -/
def logAfter {α : Type} : EStateM.Result PyException (StoreLog UnblindedToken) α →
    StoreLog UnblindedToken
  | .ok _ log => log
  | .error _ log => log

/-! ## Store calls -/

/-- Call ``get_unblinded_tokens``; the tokens it returns are logged with the call. -/
def drawTokens (c : SpendingController UnblindedToken Pass) (count : ℤ) :
    SpendM UnblindedToken (List UnblindedToken) := fun log =>
  match c.getUnblindedTokens log count with
  | .ok tokens => .ok tokens (log ++ [.getUnblindedTokens count tokens])
  | .error e => .error e log

/-- Hand tokens to the store with `call`: the call is logged whether or not the store then
raises.  ``mark_spent``, ``mark_invalid`` and ``reset`` are this with their own callable. -/
def report (call : StoreCall UnblindedToken)
    (answer : StoreLog UnblindedToken → Except PyException Unit) : SpendM UnblindedToken Unit :=
  fun log =>
    match answer log with
    | .ok () => .ok () (log ++ [call])
    | .error e => .error e (log ++ [call])

theorem logAfter_report (call : StoreCall UnblindedToken)
    (answer : StoreLog UnblindedToken → Except PyException Unit) (log : StoreLog UnblindedToken) :
    logAfter ((report call answer).run log) = log ++ [call] := by
  simp only [report, run_apply]
  split <;> rfl

/-- ``message.decode("utf-8")``, which raises ``UnicodeDecodeError`` on malformed input. -/
def decodeUtf8 (message : Bytes) : Except PyException String :=
  match String.fromUTF8? ⟨message.toArray⟩ with
  | some text => .ok text
  | none => .error ⟨true, some "'utf-8' codec can't decode"⟩

theorem decodeUtf8_nil : ∃ text, decodeUtf8 [] = .ok text := by
  have hvalid : String.validateUTF8 ⟨#[]⟩ = true := by
    unfold String.validateUTF8 String.validateUTF8.loop
    simp [ByteArray.size]
  simp [decodeUtf8, String.fromUTF8?, hvalid]

/-- The byte ``0xff`` starts no UTF-8 sequence: ``b"\xff".decode("utf-8")`` raises. -/
theorem decodeUtf8_ff : decodeUtf8 [255] = .error ⟨true, some "'utf-8' codec can't decode"⟩ := by
  have hchar : String.utf8DecodeChar? ⟨#[255]⟩ 0 = none := by decide
  have hinvalid : String.validateUTF8 ⟨#[255]⟩ = false := by
    unfold String.validateUTF8 String.validateUTF8.loop
    simp [ByteArray.size, hchar]
  simp [decodeUtf8, String.fromUTF8?, hinvalid]

/-! ## The controller -/

namespace SpendingController

variable (c : SpendingController UnblindedToken Pass)

/-- ``SpendingController.get(message, num_passes)``; the ``GET_PASSES`` log call decodes
the message. -/
def get (message : Bytes) (numPasses : ℤ) : SpendM UnblindedToken (PassGroup UnblindedToken Pass) :=
  do
    let unblindedTokens ← drawTokens c numPasses
    let passes ← liftExcept (c.tokensToPasses message unblindedTokens)
    let _ ← liftExcept (decodeUtf8 message)
    pure ⟨message, c, unblindedTokens.zip passes⟩

/-- ``SpendingController.mark_spent(unblinded_tokens)``. -/
def markSpent (unblindedTokens : List UnblindedToken) : SpendM UnblindedToken Unit :=
  report (.discardUnblindedTokens unblindedTokens) (c.discardUnblindedTokens · unblindedTokens)

/-- ``SpendingController.mark_invalid(reason, unblinded_tokens)``. -/
def markInvalid (reason : String) (unblindedTokens : List UnblindedToken) :
    SpendM UnblindedToken Unit :=
  report (.invalidateUnblindedTokens reason unblindedTokens)
    (c.invalidateUnblindedTokens · reason unblindedTokens)

/-- ``SpendingController.reset(unblinded_tokens)``. -/
def reset (unblindedTokens : List UnblindedToken) : SpendM UnblindedToken Unit :=
  report (.resetUnblindedTokens unblindedTokens) (c.resetUnblindedTokens · unblindedTokens)

/-- What ``get`` does: it draws, then builds the group unless ``tokens_to_passes`` or the
decoding of the message raises. -/
theorem get_run (message : Bytes) (numPasses : ℤ) (log : StoreLog UnblindedToken) :
    (c.get message numPasses).run log =
      match c.getUnblindedTokens log numPasses with
      | .error e => .error e log
      | .ok tokens =>
          match c.tokensToPasses message tokens, decodeUtf8 message with
          | .ok passes, .ok _ =>
              .ok ⟨message, c, tokens.zip passes⟩ (log ++ [.getUnblindedTokens numPasses tokens])
          | .error e, _ => .error e (log ++ [.getUnblindedTokens numPasses tokens])
          | .ok _, .error e => .error e (log ++ [.getUnblindedTokens numPasses tokens]) := by
  cases hdraw : c.getUnblindedTokens log numPasses with
  | error e => simp [get, run_apply, bind, EStateM.bind, drawTokens, hdraw]
  | ok tokens =>
      cases hpasses : c.tokensToPasses message tokens <;> cases hdecode : decodeUtf8 message <;>
        simp [get, run_apply, bind, EStateM.bind, drawTokens, liftExcept, hdraw, hpasses, hdecode,
          pure, EStateM.pure, throw, throwThe, EStateM.throw, MonadExceptOf.throw]

/-- A group ``get`` returns pairs the drawn tokens with their passes, and the log gained
the draw. -/
theorem get_ok {message : Bytes} {numPasses : ℤ} {log log' : StoreLog UnblindedToken}
    {g : PassGroup UnblindedToken Pass} (hget : (c.get message numPasses).run log = .ok g log') :
    ∃ tokens passes, c.getUnblindedTokens log numPasses = .ok tokens ∧
      c.tokensToPasses message tokens = .ok passes ∧ g = ⟨message, c, tokens.zip passes⟩ ∧
      log' = log ++ [.getUnblindedTokens numPasses tokens] := by
  rw [get_run] at hget
  split at hget
  · cases hget
  · rename_i tokens hdraw
    split at hget
    · cases hget
      exact ⟨tokens, _, hdraw, by assumption, rfl, rfl⟩
    · cases hget
    · cases hget

/-- A ``get`` that raises leaves the log as it was, or followed by the draw the store
answered. -/
theorem get_error {message : Bytes} {numPasses : ℤ} {log log' : StoreLog UnblindedToken}
    {e : PyException} (hget : (c.get message numPasses).run log = .error e log') :
    log' = log ∨ ∃ tokens, c.getUnblindedTokens log numPasses = .ok tokens ∧
      log' = log ++ [.getUnblindedTokens numPasses tokens] := by
  rw [get_run] at hget
  split at hget
  · cases hget
    exact .inl rfl
  · rename_i tokens hdraw
    split at hget <;> cases hget <;> exact .inr ⟨tokens, hdraw, rfl⟩

/-- **``get`` hands nothing back.**  ``get(message, n)`` makes one call on the store, the
draw ``get_unblinded_tokens(n)``.  If the draw raises, ``get`` raises its exception.  If it
returns tokens, the draw stays the only store call whatever follows: an exception of
``tokens_to_passes`` or of decoding the message propagates out of ``get``, the drawn tokens
in no group and not reset, and otherwise ``get`` returns the tokens paired with their
passes. -/
theorem get_only_draws (message : Bytes) (numPasses : ℤ) (log : StoreLog UnblindedToken) :
    (∀ e, c.getUnblindedTokens log numPasses = .error e →
      (c.get message numPasses).run log = .error e log) ∧
    ∀ tokens, c.getUnblindedTokens log numPasses = .ok tokens →
      (∀ e, c.tokensToPasses message tokens = .error e →
        (c.get message numPasses).run log = .error e (log ++ [.getUnblindedTokens numPasses tokens])) ∧
      (∀ passes e, c.tokensToPasses message tokens = .ok passes → decodeUtf8 message = .error e →
        (c.get message numPasses).run log = .error e (log ++ [.getUnblindedTokens numPasses tokens])) ∧
      (∀ passes text, c.tokensToPasses message tokens = .ok passes → decodeUtf8 message = .ok text →
        (c.get message numPasses).run log =
          .ok ⟨message, c, tokens.zip passes⟩ (log ++ [.getUnblindedTokens numPasses tokens])) := by
  refine ⟨fun e hdraw => by simp only [get_run, hdraw], fun tokens hdraw =>
    ⟨fun e hpasses => by simp only [get_run, hdraw, hpasses],
      fun passes e hpasses hdecode => by simp only [get_run, hdraw, hpasses, hdecode],
      fun passes text hpasses hdecode => by simp only [get_run, hdraw, hpasses, hdecode]⟩⟩

end SpendingController

/-- A store that hands out token `0` on every draw, and a ``tokens_to_passes`` that raises. -/
def exampleFailingController : SpendingController ℕ ℕ where
  getUnblindedTokens := fun _ _ => .ok [0]
  discardUnblindedTokens := fun _ _ => .ok ()
  invalidateUnblindedTokens := fun _ _ _ => .ok ()
  resetUnblindedTokens := fun _ _ => .ok ()
  tokensToPasses := fun _ _ => .error ⟨true, some "tokens_to_passes failed"⟩

/-- ``get`` raises after drawing token `0`, and the log ends with the draw: the token is in
no group and was not reset. -/
theorem get_raises_with_drawn_token_out :
    (exampleFailingController.get [] 1).run [] =
      .error ⟨true, some "tokens_to_passes failed"⟩ [.getUnblindedTokens 1 [0]] := by
  rw [SpendingController.get_run]
  rfl

/-! ## Groups -/

namespace PassGroup

variable (g : PassGroup UnblindedToken Pass)

/-- ``PassGroup.passes``. -/
def passes : List Pass :=
  g.tokens.map Prod.snd

/-- ``PassGroup.unblinded_tokens``. -/
def unblindedTokens : List UnblindedToken :=
  g.tokens.map Prod.fst

/-- One turn of the loop of ``split``: the pair at position ``idx`` goes to the selected
list when ``idx in select_indices`` and to the unselected list otherwise. -/
def splitStep (selectIndices : ℤ → Bool)
    (acc : List (UnblindedToken × Pass) × List (UnblindedToken × Pass))
    (entry : ℕ × (UnblindedToken × Pass)) :
    List (UnblindedToken × Pass) × List (UnblindedToken × Pass) :=
  if selectIndices entry.1 then (acc.1 ++ [entry.2], acc.2) else (acc.1, acc.2 ++ [entry.2])

/-- ``PassGroup.split(select_indices)``; a container of integers is its membership test. -/
def split (selectIndices : ℤ → Bool) : PassGroup UnblindedToken Pass × PassGroup UnblindedToken Pass :=
  let (selected, unselected) := g.tokens.enum.foldl (splitStep selectIndices) ([], [])
  ({ g with tokens := selected }, { g with tokens := unselected })

/-- ``PassGroup.__add__(other)``: this group with the pairs rebuilt from the other's
projections appended. -/
def add (other : PassGroup UnblindedToken Pass) : PassGroup UnblindedToken Pass :=
  { g with tokens := g.tokens ++ other.unblindedTokens.zip other.passes }

/-- ``PassGroup.expand(by_amount)``: draw more passes for the group's message from its
factory and append them. -/
def expand (byAmount : ℤ) : SpendM UnblindedToken (PassGroup UnblindedToken Pass) := do
  let other ← g.factory.get g.message byAmount
  pure (g.add other)

/-- ``PassGroup.mark_spent()``. -/
def markSpent : SpendM UnblindedToken Unit :=
  g.factory.markSpent g.unblindedTokens

/-- ``PassGroup.mark_invalid(reason)``. -/
def markInvalid (reason : String) : SpendM UnblindedToken Unit :=
  g.factory.markInvalid reason g.unblindedTokens

/-- ``PassGroup.reset()``. -/
def reset : SpendM UnblindedToken Unit :=
  g.factory.reset g.unblindedTokens

/-- The pairs of `xs` at the positions `selectIndices` holds, in order: the spec's
``[xs[i] for i in range(len(xs)) if i in select_indices]``. -/
def selectedAt {α : Type} (xs : List α) (selectIndices : ℤ → Bool) : List α :=
  ((List.range xs.length).filter fun i : ℕ => selectIndices i).filterMap fun i => xs[i]?

/-- The loop of ``split`` appends the selected and the unselected pairs, in order. -/
theorem foldl_splitStep (selectIndices : ℤ → Bool) :
    ∀ (entries : List (ℕ × (UnblindedToken × Pass)))
      (acc : List (UnblindedToken × Pass) × List (UnblindedToken × Pass)),
      entries.foldl (splitStep selectIndices) acc =
        (acc.1 ++ (entries.filter fun entry => selectIndices entry.1).map Prod.snd,
          acc.2 ++ (entries.filter fun entry => !selectIndices entry.1).map Prod.snd)
  | [], acc => by simp
  | entry :: entries, acc => by
      rw [List.foldl_cons, foldl_splitStep selectIndices entries]
      unfold splitStep
      cases h : selectIndices entry.1 <;> simp [List.filter_cons, h]

/-- Filtering positions of `enumFrom k` picks the elements at the positions `k + i` kept. -/
theorem map_snd_filter_enumFrom {α : Type} (p : ℕ → Bool) :
    ∀ (xs : List α) (k : ℕ), ((xs.enumFrom k).filter fun entry => p entry.1).map Prod.snd =
      ((List.range xs.length).filter fun i => p (k + i)).filterMap fun i => xs[i]?
  | [], k => by simp
  | x :: xs, k => by
      have ih := map_snd_filter_enumFrom p xs (k + 1)
      rw [List.enumFrom_cons, List.length_cons, List.range_succ_eq_map]
      cases hk : p k <;> simp [List.filter_cons, hk, ih, List.filter_map, List.filterMap_map,
        Function.comp_def, Nat.add_right_comm _ 1, Nat.add_assoc]

theorem map_snd_filter_enum {α : Type} (xs : List α) (selectIndices : ℤ → Bool) :
    (xs.enum.filter fun entry => selectIndices entry.1).map Prod.snd = selectedAt xs selectIndices := by
  simpa [selectedAt] using map_snd_filter_enumFrom (fun i => selectIndices i) xs 0

theorem split_eq_filter (selectIndices : ℤ → Bool) :
    g.split selectIndices =
      ({ g with tokens := (g.tokens.enum.filter fun entry => selectIndices entry.1).map Prod.snd },
        { g with tokens := (g.tokens.enum.filter fun entry => !selectIndices entry.1).map Prod.snd }) := by
  simp [split, foldl_splitStep]

theorem zip_unblindedTokens_passes : g.unblindedTokens.zip g.passes = g.tokens := by
  rw [unblindedTokens, passes, ← List.unzip_fst, ← List.unzip_snd, List.zip_unzip]

/-- ``__add__`` rebuilds the other group's pairs exactly. -/
@[simp] theorem add_tokens (other : PassGroup UnblindedToken Pass) :
    (g.add other).tokens = g.tokens ++ other.tokens := by
  simp [add, zip_unblindedTokens_passes]

@[simp] theorem add_message (other : PassGroup UnblindedToken Pass) :
    (g.add other).message = g.message :=
  rfl

@[simp] theorem add_factory (other : PassGroup UnblindedToken Pass) :
    (g.add other).factory = g.factory :=
  rfl

@[simp] theorem add_unblindedTokens (other : PassGroup UnblindedToken Pass) :
    (g.add other).unblindedTokens = g.unblindedTokens ++ other.unblindedTokens := by
  simp [unblindedTokens]

@[simp] theorem split_fst_factory (selectIndices : ℤ → Bool) :
    (g.split selectIndices).1.factory = g.factory := by
  simp [split_eq_filter]

@[simp] theorem split_snd_factory (selectIndices : ℤ → Bool) :
    (g.split selectIndices).2.factory = g.factory := by
  simp [split_eq_filter]

@[simp] theorem split_fst_message (selectIndices : ℤ → Bool) :
    (g.split selectIndices).1.message = g.message := by
  simp [split_eq_filter]

@[simp] theorem split_snd_message (selectIndices : ℤ → Bool) :
    (g.split selectIndices).2.message = g.message := by
  simp [split_eq_filter]

theorem selectedAt_map {α β : Type} (f : α → β) (xs : List α) (selectIndices : ℤ → Bool) :
    (selectedAt xs selectIndices).map f = selectedAt (xs.map f) selectIndices := by
  simp [selectedAt, List.map_filterMap, List.getElem?_map]

/-- The two halves of ``split`` together hold the group's pairs. -/
theorem split_tokens_perm (selectIndices : ℤ → Bool) :
    ((g.split selectIndices).1.tokens ++ (g.split selectIndices).2.tokens).Perm g.tokens := by
  rw [split_eq_filter, ← List.map_append]
  simpa using (List.filter_append_perm (fun entry => selectIndices entry.1) g.tokens.enum).map
    Prod.snd

theorem split_unblindedTokens_perm (selectIndices : ℤ → Bool) :
    ((g.split selectIndices).1.unblindedTokens ++ (g.split selectIndices).2.unblindedTokens).Perm
      g.unblindedTokens := by
  simpa [unblindedTokens] using (split_tokens_perm g selectIndices).map Prod.fst

/-- **``split`` partitions by position.**  The first half holds the pairs at the positions
in `selectIndices`, the second the others, each in the original order and with the
group's message and factory; so positions outside the group select nothing, the halves'
projections are the projections at those positions, and their sum holds the group's pairs. -/
theorem split_partitions_by_position (selectIndices : ℤ → Bool) :
    (g.split selectIndices).1 = { g with tokens := selectedAt g.tokens selectIndices } ∧
    (g.split selectIndices).2 = { g with tokens := selectedAt g.tokens fun i => !selectIndices i } ∧
    (g.split selectIndices).1.passes = selectedAt g.passes selectIndices ∧
    (g.split selectIndices).1.unblindedTokens = selectedAt g.unblindedTokens selectIndices ∧
    (((g.split selectIndices).1.add (g.split selectIndices).2).tokens).Perm g.tokens := by
  have hfirst : (g.split selectIndices).1 = { g with tokens := selectedAt g.tokens selectIndices } := by
    rw [split_eq_filter, map_snd_filter_enum]
  refine ⟨hfirst, ?_, ?_, ?_, ?_⟩
  · rw [split_eq_filter]
    simpa using map_snd_filter_enum g.tokens fun i => !selectIndices i
  · rw [hfirst, passes, passes, selectedAt_map]
  · rw [hfirst, unblindedTokens, unblindedTokens, selectedAt_map]
  · rw [add_tokens]
    exact split_tokens_perm g selectIndices

/-- A group ``expand`` returns is the group plus what its factory's ``get`` returned. -/
theorem expand_ok {byAmount : ℤ} {log log' : StoreLog UnblindedToken}
    {g' : PassGroup UnblindedToken Pass} (hexpand : (g.expand byAmount).run log = .ok g' log') :
    ∃ other, (g.factory.get g.message byAmount).run log = .ok other log' ∧ g' = g.add other := by
  simp only [expand, run_apply, bind, EStateM.bind] at hexpand
  split at hexpand
  · cases hexpand
    exact ⟨_, by assumption, rfl⟩
  · cases hexpand

/-- An ``expand`` that raises is its factory's ``get`` raising. -/
theorem expand_error {byAmount : ℤ} {log log' : StoreLog UnblindedToken} {e : PyException}
    (hexpand : (g.expand byAmount).run log = .error e log') :
    (g.factory.get g.message byAmount).run log = .error e log' := by
  simp only [expand, run_apply, bind, EStateM.bind] at hexpand
  split at hexpand
  · cases hexpand
  · cases hexpand
    assumption

theorem logAfter_markSpent (log : StoreLog UnblindedToken) :
    logAfter (g.markSpent.run log) = log ++ [.discardUnblindedTokens g.unblindedTokens] :=
  logAfter_report _ _ _

theorem logAfter_markInvalid (reason : String) (log : StoreLog UnblindedToken) :
    logAfter ((g.markInvalid reason).run log) =
      log ++ [.invalidateUnblindedTokens reason g.unblindedTokens] :=
  logAfter_report _ _ _

theorem logAfter_reset (log : StoreLog UnblindedToken) :
    logAfter (g.reset.run log) = log ++ [.resetUnblindedTokens g.unblindedTokens] :=
  logAfter_report _ _ _

end PassGroup

end Spending
end ZKAPAuthorizer
