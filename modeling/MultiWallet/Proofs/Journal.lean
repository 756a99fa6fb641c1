import MultiWallet.Registry.Event

/-!
What operations add to the journal. Nothing in it is ever taken back, so that an
operation is known by the effects that it appends; and whether anybody hears the
published actions is never changed from within.
-/

namespace MultiWallet

namespace Effect

/-- Effects that come with no change of what is registered: no calls of the engine,
and of the actions only those about a wallet that is there. -/
def IsQuiet : Effect → Prop
  | published (.walletChanged _ _) => True
  | published _ => False
  | called _ => False
  | _ => True

/-- News about a wallet that is there, or a line for the log. -/
def IsNews : Effect → Prop
  | published (.walletChanged _ _) => True
  | logged _ => True
  | _ => False

theorem IsNews.isQuiet {effect : Effect} (h : effect.IsNews) : effect.IsQuiet := by
  cases effect with
  | published action => cases action <;> simp_all [IsNews, IsQuiet]
  | called | commanded | wrote | logged => simp_all [IsNews, IsQuiet]

theorem IsNews.command?_eq_none {effect : Effect} (h : effect.IsNews) :
    effect.command? = none := by
  cases effect <;> simp_all [IsNews, command?]

/-- A write to the store. -/
def IsWrite : Effect → Prop
  | wrote _ _ _ => True
  | _ => False

theorem IsWrite.isQuiet {effect : Effect} (h : effect.IsWrite) : effect.IsQuiet := by
  cases effect <;> simp_all [IsWrite, IsQuiet]

theorem IsWrite.action?_eq_none {effect : Effect} (h : effect.IsWrite) :
    effect.action? = none := by
  cases effect <;> simp_all [IsWrite, action?]

theorem IsQuiet.call?_eq_none {effect : Effect} (h : effect.IsQuiet) : effect.call? = none := by
  cases effect <;> simp_all [IsQuiet, call?]

/-- Quiet effects are no calls. -/
theorem filterMap_call?_of_quiet {effects : List Effect}
    (quiet : ∀ effect ∈ effects, effect.IsQuiet) : effects.filterMap call? = [] :=
  List.filterMap_eq_nil_iff.2 fun effect mem => (quiet effect mem).call?_eq_none

/-- A call after quiet effects is the only one. -/
theorem filterMap_call?_concat {effects : List Effect}
    (quiet : ∀ effect ∈ effects, effect.IsQuiet) (call : EngineCall) :
    (effects ++ [called call]).filterMap call? = [call] := by
  rw [List.filterMap_append, filterMap_call?_of_quiet quiet]
  rfl

/-- So is one between quiet effects. -/
theorem filterMap_call?_between {effects others : List Effect}
    (quiet : ∀ effect ∈ effects, effect.IsQuiet) (quiet' : ∀ effect ∈ others, effect.IsQuiet)
    (call : EngineCall) : (effects ++ [called call] ++ others).filterMap call? = [call] := by
  rw [List.filterMap_append, filterMap_call?_concat quiet, filterMap_call?_of_quiet quiet']
  rfl

/-- So is one after an action and some writes. -/
theorem filterMap_call?_of_writes {writes : List Effect}
    (only : ∀ effect ∈ writes, effect.IsWrite) (action : StateAction) (call : EngineCall) :
    ([published action] ++ writes ++ [called call]).filterMap call? = [call] := by
  rw [List.append_assoc, List.filterMap_append,
    filterMap_call?_concat fun effect mem => (only effect mem).isQuiet]
  rfl

end Effect

namespace Outside

variable {W : Type}

/-- The published actions. -/
def actions (outside : Outside W) : List StateAction := outside.journal.filterMap Effect.action?

/-- The calls of the engine. -/
def calls (outside : Outside W) : List EngineCall := outside.journal.filterMap Effect.call?

/-- The surroundings afterwards differ from those before by some more effects, and
perhaps by the world and the receipts. -/
structure Adds (before after : Outside W) (effects : List Effect) : Prop where
  journal : after.journal = before.journal ++ effects
  isHeard : after.isHeard = before.isHeard

namespace Adds

theorem refl (outside : Outside W) : Adds outside outside [] := ⟨by simp, rfl⟩

/-- A change of the world and the receipts alone adds nothing. -/
theorem aside (outside : Outside W) (world : W) (receipts : Receipts) :
    Adds outside { outside with world, receipts } [] := ⟨by simp, rfl⟩

theorem world (outside : Outside W) (world : W) : Adds outside { outside with world } [] :=
  ⟨by simp, rfl⟩

theorem trans {first second third : Outside W} {effects others : List Effect}
    (h : Adds first second effects) (h' : Adds second third others) :
    Adds first third (effects ++ others) :=
  ⟨by rw [h'.journal, h.journal, List.append_assoc], h'.isHeard.trans h.isHeard⟩

theorem actions {before after : Outside W} {effects : List Effect}
    (h : Adds before after effects) :
    after.actions = before.actions ++ effects.filterMap Effect.action? := by
  simp [Outside.actions, h.journal]

theorem calls {before after : Outside W} {effects : List Effect}
    (h : Adds before after effects) :
    after.calls = before.calls ++ effects.filterMap Effect.call? := by
  simp [Outside.calls, h.journal]

end Adds

/-! ### Single effects -/

theorem adds_note (outside : Outside W) (effect : Effect) :
    Adds outside (outside.note effect) [effect] := ⟨rfl, rfl⟩

theorem adds_log (outside : Outside W) (level : LogLevel) (message : String) :
    Adds outside (outside.log level message) [.logged ⟨level, message⟩] :=
  outside.adds_note _

theorem adds_publish {outside : Outside W} (heard : outside.isHeard = true)
    (action : StateAction) :
    Adds outside (outside.publish action) [.published action] := by
  rw [publish, if_pos heard]
  exact outside.adds_note _

theorem adds_command (host : Host W) (outside : Outside W) (manager : EngineManager)
    (command : ManagerCommand) :
    Adds outside (outside.command host manager command) [.commanded manager command] :=
  ⟨rfl, rfl⟩

theorem adds_start (host : Host W) (outside : Outside W) (session : EngineSession)
    (networks : List String) :
    Adds outside (outside.start host session networks) [.called (.start networks)] :=
  ⟨rfl, rfl⟩

theorem adds_stop (host : Host W) (outside : Outside W) (session : EngineSession) :
    Adds outside (outside.stop host session) [.called .stop] := ⟨rfl, rfl⟩

theorem adds_createSession (host : Host W) (outside : Outside W) (account : String)
    (mainnet : Bool) (directory : String) :
    Adds outside (outside.createSession host account mainnet directory).2
      [.called (.createSession account mainnet directory)] :=
  ⟨rfl, rfl⟩

theorem adds_createManager (host : Host W) (outside : Outside W) (session : EngineSession)
    (network : Network) (mode : ManagerMode) (currencies : List CurrencyId) :
    Adds outside (outside.createManager host session network mode currencies).2
      [.called (.createManager network mode currencies)] :=
  ⟨rfl, rfl⟩

theorem adds_modifyReceipt (outside : Outside W) (id : ReceiptId)
    (change : Receipt → Receipt) : Adds outside (outside.modifyReceipt id change) [] :=
  Adds.aside outside outside.world _

/-! ### Rows of effects -/

/-- A row of operations that add one effect each adds all of these. -/
theorem adds_foldl {α : Type} (step : Outside W → α → Outside W) (effect : α → Effect)
    (P : Outside W → Prop) (kept : ∀ outside a, P outside → P (step outside a))
    (single : ∀ outside a, P outside → Adds outside (step outside a) [effect a])
    (items : List α) {outside : Outside W} (h : P outside) :
    Adds outside (items.foldl step outside) (items.map effect) := by
  induction items generalizing outside with
  | nil => exact .refl outside
  | cons a rest ih => exact (single outside a h).trans (ih (kept outside a h))

theorem adds_logAll (outside : Outside W) (lines : List LogLine) :
    Adds outside (outside.logAll lines) (lines.map .logged) :=
  adds_foldl (fun outside line => outside.note (.logged line)) .logged (fun _ => True)
    (fun _ _ _ => trivial) (fun outside line _ => outside.adds_note (.logged line)) lines trivial

theorem adds_commandAll (host : Host W) (outside : Outside W) (manager : EngineManager)
    (commands : List ManagerCommand) :
    Adds outside (outside.commandAll host manager commands)
      (commands.map (.commanded manager)) :=
  adds_foldl (fun outside told => outside.command host manager told) (.commanded manager)
    (fun _ => True) (fun _ _ _ => trivial)
    (fun outside told _ => outside.adds_command host manager told) commands trivial

/-! ### Operations known by the kind of their effects -/

/-- All effects that were added in between are of some kind. -/
def OnlyAdds (kind : Effect → Prop) (before after : Outside W) : Prop :=
  ∃ effects, Adds before after effects ∧ ∀ effect ∈ effects, kind effect

namespace OnlyAdds

variable {kind kind' : Effect → Prop}

theorem refl (outside : Outside W) : OnlyAdds kind outside outside :=
  ⟨[], .refl outside, by simp⟩

theorem trans {first second third : Outside W} (h : OnlyAdds kind first second)
    (h' : OnlyAdds kind second third) : OnlyAdds kind first third := by
  obtain ⟨effects, added, only⟩ := h
  obtain ⟨others, added', only'⟩ := h'
  exact ⟨effects ++ others, added.trans added',
    fun effect mem => (List.mem_append.1 mem).elim (only effect) (only' effect)⟩

theorem mono (imp : ∀ effect, kind effect → kind' effect) {before after : Outside W}
    (h : OnlyAdds kind before after) : OnlyAdds kind' before after := by
  obtain ⟨effects, added, only⟩ := h
  exact ⟨effects, added, fun effect mem => imp effect (only effect mem)⟩

/-- A row of operations adds what each of them does. -/
theorem foldl {α : Type} {step : Outside W → α → Outside W}
    (single : ∀ outside a, OnlyAdds kind outside (step outside a)) (items : List α)
    (outside : Outside W) : OnlyAdds kind outside (items.foldl step outside) := by
  induction items generalizing outside with
  | nil => exact .refl outside
  | cons a rest ih => exact (single outside a).trans (ih (step outside a))

theorem isHeard {before after : Outside W} (h : OnlyAdds kind before after) :
    after.isHeard = before.isHeard := by
  obtain ⟨_, added, _⟩ := h
  exact added.isHeard

end OnlyAdds

/-- All that was done in between was to write to the store. -/
abbrev OnlyWrites (before after : Outside W) : Prop := OnlyAdds Effect.IsWrite before after

/-- All that was done in between was to publish news and to log lines. -/
abbrev OnlyNews (before after : Outside W) : Prop := OnlyAdds Effect.IsNews before after

/-- All that was done in between was quiet. -/
abbrev Quietly (before after : Outside W) : Prop := OnlyAdds Effect.IsQuiet before after

theorem OnlyWrites.quietly {before after : Outside W} (h : OnlyWrites before after) :
    Quietly before after :=
  h.mono fun _ written => written.isQuiet

theorem OnlyNews.quietly {before after : Outside W} (h : OnlyNews before after) :
    Quietly before after :=
  h.mono fun _ news => news.isQuiet

theorem Adds.only {kind : Effect → Prop} {before after : Outside W} {effects : List Effect}
    (h : Adds before after effects) (all : ∀ effect ∈ effects, kind effect) :
    OnlyAdds kind before after :=
  ⟨effects, h, all⟩

theorem Adds.quietly {before after : Outside W} {effects : List Effect}
    (h : Adds before after effects) (quiet : ∀ effect ∈ effects, effect.IsQuiet) :
    Quietly before after :=
  h.only quiet

/-! ### The store -/

theorem onlyWrites_get (host : Host W) (key : String) (outside : Outside W) :
    OnlyWrites outside ((store host).get key outside).2 :=
  ⟨[], Adds.world outside _, by simp⟩

theorem onlyWrites_set (host : Host W) (key : String) (value : Bytes) (version : Nat)
    (outside : Outside W) : OnlyWrites outside ((store host).set key value version outside).2 :=
  ⟨[.wrote key value version], ⟨rfl, rfl⟩, by simp [Effect.IsWrite]⟩

theorem onlyWrites_load {α : Type} [Persisted α] (host : Host W) (outside : Outside W) :
    OnlyWrites outside ((store host).load (α := α) outside).2 := by
  have read := onlyWrites_get host (Persisted.key α) outside
  rw [Store.load]
  split <;> rename_i heq <;> rw [heq] at read <;> exact read

theorem onlyWrites_save {α : Type} [Persisted α] (host : Host W) (value : α) (version : Nat)
    (outside : Outside W) : OnlyWrites outside ((store host).save value version outside).2 := by
  have written := onlyWrites_set host (Persisted.key α) (Persisted.encode value) version outside
  rw [Store.save]
  split <;> rename_i heq <;> rw [heq] at written <;> exact written

end Outside

namespace ConnectionSettings

open Outside

variable {W : Type}

theorem onlyWrites_load (host : Host W) (outside : Outside W) :
    OnlyWrites outside (load (store host) outside).2 := by
  have read := Outside.onlyWrites_load (α := WalletInfo) host outside
  rw [load]
  split <;> rename_i heq <;> rw [heq] at read <;> exact read

theorem onlyWrites_save (host : Host W) (settings : ConnectionSettings) (outside : Outside W) :
    OnlyWrites outside (settings.save (store host) outside).2.2 := by
  have written := Outside.onlyWrites_save host settings.info.value settings.version outside
  rw [save]
  split <;> rename_i heq <;> rw [heq] at written <;> exact written

theorem onlyWrites_choose (host : Host W) (settings : ConnectionSettings) (uid : CurrencyId)
    (mode : ManagerMode) (outside : Outside W) :
    OnlyWrites outside (settings.choose (store host) uid mode outside).2.2 :=
  onlyWrites_save host _ outside

theorem onlyWrites_modeFor (host : Host W) (settings : ConnectionSettings) (uid : CurrencyId)
    (supported : ManagerMode → Bool) (outside : Outside W) :
    OnlyWrites outside (settings.modeFor (store host) uid supported outside).2.2 := by
  rw [modeFor]
  split
  · exact .refl outside
  · exact onlyWrites_choose host _ uid _ outside

theorem onlyWrites_heed (host : Host W) (notice : Notice) (settings : ConnectionSettings)
    (outside : Outside W) :
    OnlyWrites outside (settings.heed (store host) notice outside).2.2 := by
  have read := Outside.onlyWrites_load (α := WalletInfo) host outside
  rw [heed]
  split
  · split <;> rename_i heq <;> rw [heq] at read
    · exact read
    · exact read
    · split <;> exact read
  · exact .refl outside

end ConnectionSettings

end MultiWallet
