import GrpcCore.Transport.Sending
import GrpcCore.Transport.HostInvariant

/-!
# What the operations leave alone

Most of what the transport does moves streams between lists. Such a change is
quiet: the windows, the frames sent and the increments received stay, and no
stream comes to wait for its own window.
-/

namespace GrpcCore.Transport

open Hpack MachineInt

theorem mem_streamListAdd {list : List Nat} {id other : Nat} :
    other ∈ streamListAdd list id ↔ other ∈ list ∨ other = id := by
  unfold streamListAdd
  split_ifs with known
  · constructor
    · exact Or.inl
    · rintro (found | rfl)
      · exact found
      · exact known
  · simp

variable {s : SendStream} (ids : List Nat)

namespace SendSide

structure Quiet (w w' : SendSide) : Prop where
  enabled : w'.flowControlEnabled = w.flowControlEnabled
  tfc : w'.tfc = w.tfc
  increments : w'.incrementsReceived = w.incrementsReceived
  dataFrames : w'.dataFrames = w.dataFrames
  sfc : ∀ id, (w'.streams id).sfc = (w.streams id).sfc
  streamIncrements : ∀ id,
    (w'.streams id).incrementsReceived = (w.streams id).incrementsReceived
  stalled : w'.stalledByStream ⊆ w.stalledByStream
  closed : w.closedWithError = true → w'.closedWithError = true

/-- A quiet change after which no stream has bytes to send that had none. -/
structure Eased (w w' : SendSide) : Prop extends Quiet w w' where
  bytes : ∀ id, (w'.streams id).hasBytes → (w.streams id).hasBytes

variable (w : SendSide)

theorem Quiet.refl : Quiet w w :=
  ⟨rfl, rfl, rfl, rfl, fun _ => rfl, fun _ => rfl, fun _ found => found, id⟩

theorem Quiet.trans {w w' w'' : SendSide} (first : Quiet w w') (second : Quiet w' w'') :
    Quiet w w'' where
  enabled := second.enabled.trans first.enabled
  tfc := second.tfc.trans first.tfc
  increments := second.increments.trans first.increments
  dataFrames := second.dataFrames.trans first.dataFrames
  sfc id := (second.sfc id).trans (first.sfc id)
  streamIncrements id := (second.streamIncrements id).trans (first.streamIncrements id)
  stalled := fun _ found => first.stalled (second.stalled found)
  closed was := second.closed (first.closed was)

theorem Eased.refl (w : SendSide) : Eased w w := ⟨.refl w, fun _ => id⟩

theorem Eased.trans {w w' w'' : SendSide} (first : Eased w w') (second : Eased w' w'') :
    Eased w w'' :=
  ⟨first.toQuiet.trans second.toQuiet, fun id has => first.bytes id (second.bytes id has)⟩

instance : IsTrans SendSide Quiet := ⟨fun _ _ _ => Quiet.trans⟩

instance : IsTrans SendSide Eased := ⟨fun _ _ _ => Eased.trans⟩

theorem Quiet.streamWindow {w w' : SendSide} (quiet : Quiet w w') (peer : Settings) (id : Nat) :
    w'.streamWindow peer id = w.streamWindow peer id := by
  unfold SendSide.streamWindow
  rw [quiet.sfc id]

theorem Quiet.maxOutgoing {w w' : SendSide} (quiet : Quiet w w') (peer : Settings) (id : Nat) :
    w'.maxOutgoing peer id = w.maxOutgoing peer id := by
  simp only [SendSide.maxOutgoing, streamRemoteWindow, quiet.streamWindow peer id, quiet.tfc]

section

variable (id : Nat) (sfc : s.sfc = (w.streams id).sfc)
  (increments : s.incrementsReceived = (w.streams id).incrementsReceived)
include id sfc increments

theorem quiet_setStream : Quiet w (w.setStream id s) where
  enabled := rfl
  tfc := rfl
  increments := rfl
  dataFrames := rfl
  sfc other := by
    by_cases same : other = id
    · subst same
      simpa [setStream] using sfc
    · simp [setStream, Function.update_of_ne same]
  streamIncrements other := by
    by_cases same : other = id
    · subst same
      simpa [setStream] using increments
    · simp [setStream, Function.update_of_ne same]
  stalled := fun _ found => found
  closed was := was

theorem eased_setStream (bytes : s.hasBytes → (w.streams id).hasBytes) :
    Eased w (w.setStream id s) := by
  refine ⟨quiet_setStream w id sfc increments, ?_⟩
  intro other has
  by_cases same : other = id
  · subst same
    exact bytes (by simpa [setStream] using has)
  · simpa [setStream, Function.update_of_ne same] using has

end

theorem quiet_compress (id : Nat) (outcome : Compressed) (ctx : Bool) :
    Quiet w (w.compress id outcome ctx) :=
  quiet_setStream w id rfl rfl

theorem eased_lists {w w' : SendSide} (streams : w'.streams = w.streams)
    (enabled : w'.flowControlEnabled = w.flowControlEnabled) (tfc : w'.tfc = w.tfc)
    (increments : w'.incrementsReceived = w.incrementsReceived)
    (dataFrames : w'.dataFrames = w.dataFrames)
    (stalled : w'.stalledByStream ⊆ w.stalledByStream)
    (closed : w'.closedWithError = w.closedWithError) : Eased w w' where
  enabled := enabled
  tfc := tfc
  increments := increments
  dataFrames := dataFrames
  sfc _ := by rw [streams]
  streamIncrements _ := by rw [streams]
  stalled := stalled
  closed was := closed.trans was
  bytes _ has := by rwa [streams] at has

theorem eased_setWritable (writable : List Nat) : Eased w { w with writable } :=
  eased_lists rfl rfl rfl rfl rfl (fun _ found => found) rfl

theorem eased_markStreamWritable (id : Nat) : Eased w (w.markStreamWritable id) := by
  unfold markStreamWritable
  split_ifs
  · exact .refl w
  · exact eased_setWritable w _

theorem eased_foldl_markStreamWritable (w : SendSide) :
    Eased w (ids.foldl markStreamWritable w) := by
  induction ids generalizing w with
  | nil => exact .refl w
  | cons id ids ih => exact (eased_markStreamWritable w id).trans (ih _)

theorem eased_unstall (id : Nat) : Eased w (w.unstall id) := by
  unfold unstall
  split_ifs
  · refine Eased.trans ?_ (eased_markStreamWritable _ id)
    exact eased_lists rfl rfl rfl rfl rfl List.filter_sublist.subset rfl
  · exact .refl w

theorem eased_removeFromLists (id : Nat) : Eased w (w.removeFromLists id) :=
  eased_lists rfl rfl rfl rfl rfl List.filter_sublist.subset rfl

theorem eased_wakeStalledByStream : Eased w w.wakeStalledByStream := by
  refine Eased.trans ?_ (eased_foldl_markStreamWritable _ _)
  exact eased_lists rfl rfl rfl rfl rfl (List.nil_subset _) rfl

theorem eased_updateStreamsNoLongerStalled : Eased w w.updateStreamsNoLongerStalled := by
  refine Eased.trans ?_ (eased_foldl_markStreamWritable _ _)
  exact eased_lists rfl rfl rfl rfl rfl (fun _ found => found) rfl

theorem eased_closeWrites (id : Nat) : Eased w (w.closeWrites id) := by
  unfold closeWrites
  split_ifs
  · exact .refl w
  · exact eased_setStream w id rfl rfl (fun has => has)

theorem eased_markStreamClosed (id : Nat) (reads writes : Bool) (r : HeaderReader)
    (w : SendSide) : Eased w (markStreamClosed id reads writes r w).2 := by
  have closed : Eased w (if writes then w.closeWrites id else w) := by
    split_ifs
    · exact eased_closeWrites w id
    · exact .refl w
  unfold markStreamClosed
  dsimp only
  generalize (if writes then w.closeWrites id else w) = w' at closed ⊢
  generalize (if reads then r.closeReads id else r) = r'
  split_ifs
  · exact closed.trans (eased_removeFromLists w' id)
  · exact closed

end SendSide

variable {f' : Frames SendSide}

namespace Frames

open SendSide

structure SameSettings (f f' : Frames SendSide) : Prop where
  peer : f'.peerSettings = f.peerSettings
  update : f'.initialWindowUpdate = f.initialWindowUpdate
  parser : ∀ p, f'.parser = .settings p ↔ f.parser = .settings p

variable (f : Frames SendSide)

theorem SameSettings.refl : SameSettings f f :=
  ⟨rfl, rfl, fun _ => Iff.rfl⟩

theorem SameSettings.trans {f f' f'' : Frames SendSide} (first : SameSettings f f')
    (second : SameSettings f' f'') : SameSettings f f'' where
  peer := second.peer.trans first.peer
  update := second.update.trans first.update
  parser p := (second.parser p).trans (first.parser p)

structure Changes (R : SendSide → SendSide → Prop) (f f' : Frames SendSide) : Prop where
  world : R f.world f'.world
  same : SameSettings f f'

theorem Changes.quiet {f : Frames SendSide} (changes : Changes Eased f f') : Changes Quiet f f' :=
  ⟨changes.world.toQuiet, changes.same⟩

theorem Changes.trans {R : SendSide → SendSide → Prop} [IsTrans SendSide R]
    {f f' f'' : Frames SendSide} (first : Changes R f f') (second : Changes R f' f'') :
    Changes R f f'' :=
  ⟨IsTrans.trans _ _ _ first.world second.world, first.same.trans second.same⟩

theorem changes_setWorld {R : SendSide → SendSide → Prop} {f : Frames SendSide} {w : SendSide}
    (changed : R f.world w) : Changes R f (f.setWorld w) :=
  ⟨changed, ⟨rfl, rfl, fun _ => Iff.rfl⟩⟩

theorem Eased.refl (f : Frames SendSide) : Changes Eased f f := ⟨.refl _, .refl f⟩

theorem skipStream_settings (parser : FrameParser) (id : Nat) (p : SettingsParser) :
    parser.skipStream id = .settings p ↔ parser = .settings p := by
  unfold FrameParser.skipStream
  split
  · split_ifs <;> simp
  · split_ifs <;> simp
  · split_ifs <;> simp
  · exact Iff.rfl

theorem eased_markStreamClosed (f : Frames SendSide) (id : Nat) (reads writes : Bool) :
    Changes Eased f (f.markStreamClosed id reads writes) := by
  refine ⟨SendSide.eased_markStreamClosed id reads writes f.headers f.world, rfl, rfl, ?_⟩
  intro p
  unfold markStreamClosed
  dsimp only
  split_ifs
  · exact skipStream_settings f.parser id p
  · exact Iff.rfl

theorem eased_sentLastFrame (id : Nat) : Changes Eased f (f.sentLastFrame id) := by
  refine Changes.trans (changes_setWorld ?_) (eased_markStreamClosed _ id _ true)
  exact eased_setStream f.world id rfl rfl (fun has => has)

theorem eased_flushInitialMetadata (id : Nat) : Changes Eased f (f.flushInitialMetadata id) := by
  unfold flushInitialMetadata
  dsimp only
  split_ifs
  · exact Eased.refl f
  · exact changes_setWorld (eased_setStream f.world id rfl rfl (fun has => has))

theorem eased_afterBytes (id : Nat) (isLastFrame : Bool) :
    Changes Eased f (f.afterBytes id isLastFrame) := by
  have ended : Changes Eased f (if isLastFrame then f.sentLastFrame id else f) := by
    split_ifs
    · exact eased_sentLastFrame f id
    · exact Eased.refl f
  unfold afterBytes
  dsimp only
  generalize (if isLastFrame then f.sentLastFrame id else f) = f' at ended ⊢
  split_ifs
  · exact ended.trans (changes_setWorld (eased_setWritable f'.world _))
  · exact ended

theorem eased_wakeStalledByTransport : Changes Eased f f.wakeStalledByTransport := by
  unfold wakeStalledByTransport
  split_ifs
  · exact changes_setWorld (eased_updateStreamsNoLongerStalled f.world)
  · exact Eased.refl f

theorem eased_flushSettings (settings : Option Settings) :
    Changes Eased f (f.flushSettings settings) := by
  cases settings with
  | none => exact Eased.refl f
  | some => exact ⟨.refl _, rfl, rfl, fun _ => Iff.rfl⟩

theorem eased_closeStreams (f : Frames SendSide) :
    Changes Eased f (ids.foldl (fun f id => f.markStreamClosed id true true) f) := by
  induction ids generalizing f with
  | nil => exact Eased.refl f
  | cons id ids ih => exact (eased_markStreamClosed f id true true).trans (ih _)

theorem quiet_closeTransport : Changes Quiet f f.closeTransport := by
  unfold closeTransport
  split_ifs
  · exact (Eased.refl f).quiet
  · refine Changes.trans (changes_setWorld ?_) (eased_closeStreams _ _).quiet
    exact ⟨rfl, rfl, rfl, rfl, fun _ => rfl, fun _ => rfl, fun _ found => found, fun _ => rfl⟩

theorem quiet_performStreamOp (id : Nat) (writable : Bool) (sfc : s.sfc = (f.world.streams id).sfc)
    (increments : s.incrementsReceived = (f.world.streams id).incrementsReceived) :
    Changes Quiet f (f.performStreamOp id s writable) := by
  have set := quiet_setStream f.world id sfc increments
  unfold performStreamOp
  split_ifs
  · exact (Eased.refl f).quiet
  · exact changes_setWorld (set.trans (eased_markStreamWritable _ id).toQuiet)
  · exact changes_setWorld set

theorem quiet_startStream (id : Nat) : Changes Quiet f (f.startStream id) :=
  ⟨(eased_markStreamWritable f.world id).toQuiet, rfl, rfl, fun _ => Iff.rfl⟩

end Frames

theorem SendSide.host_keeps (accept : SendSide → Nat → Bool)
    (overflow : FrameHeader → HeaderReader → SendSide → Option FlowControlError)
    {Holds : SendSide → Prop}
    (windowUpdated : ∀ {w : SendSide} (id amount), Holds w → Holds (w.windowUpdated id amount))
    (markStreamClosed : ∀ {w : SendSide} (id reads writes r), Holds w →
      Holds (SendSide.markStreamClosed id reads writes r w).2) :
    (SendSide.host accept overflow).Keeps Holds where
  recvData := by
    intro header r w w' holds received
    simp only [SendSide.host] at received
    split at received
    · cases received
    · obtain rfl := Except.ok.inj received
      exact holds
  act := by
    intro action r w holds
    cases action with
    | windowUpdated id amount => exact windowUpdated id amount holds
    | streamReset id => exact markStreamClosed id true true r holds
    | dataRefused id | dataEnded id => exact markStreamClosed id true false r holds
    | headersEnded id => exact markStreamClosed id false false r holds
    | _ => exact holds

namespace SendingTransport

variable {action : SendAction}

theorem operate_cases {f : Frames SendSide} (taken : operate f action = some f') :
    Frames.Changes SendSide.Quiet f f' ∨
      ∃ settings pass, action = .beginWrite settings pass ∧ f' = f.beginWrite settings pass := by
  cases action with
  | beginWrite settings pass => exact .inr ⟨settings, pass, rfl, (Option.some.inj taken).symm⟩
  | beginRead | readSlice | finishRead => simp [operate] at taken
  | startStream id =>
    obtain ⟨_, rfl⟩ := Option.ite_some_none_eq_some.mp taken
    exact .inl (f.quiet_startStream id)
  | sendInitialMetadata id compression | sendMessage id bytes fetching writable
  | sendTrailingMetadata id =>
    rw [← Option.some.inj taken]
    exact .inl (f.quiet_performStreamOp id _ rfl rfl)
  | cancelStream id =>
    rw [← Option.some.inj taken]
    exact .inl (f.eased_markStreamClosed id true true).quiet
  | closeTransport =>
    rw [← Option.some.inj taken]
    exact .inl f.quiet_closeTransport

theorem step_cases {host : Host SendSide} {t t' : SendingTransport}
    (taken : step host t action = some t') :
    (∃ r slice, t.reading = some r ∧ action = .readSlice slice ∧ r.failed = false ∧
        t' = t.readSlice host r slice) ∨
      (∃ r failed, t.reading = some r ∧ action = .finishRead failed ∧
        t' = t.finishRead (r.failed || failed)) ∨
      (t.reading = none ∧ action = .beginRead ∧ t.world.closedWithError = false ∧
        t' = t.beginRead) ∨
      ∃ frames, t.reading = none ∧ operate t.frames action = some frames ∧
        t' = t.setFrames frames := by
  unfold step at taken
  split at taken
  · rename_i r slice reading
    obtain ⟨going, done⟩ := Option.ite_none_left_eq_some.mp taken
    exact .inl ⟨r, slice, reading, rfl, by simpa using going, (Option.some.inj done).symm⟩
  · rename_i r failed reading
    exact .inr (.inl ⟨r, failed, reading, rfl, (Option.some.inj taken).symm⟩)
  · cases taken
  · rename_i reading
    obtain ⟨isOpen, begun⟩ := Option.ite_none_left_eq_some.mp taken
    exact .inr (.inr (.inl ⟨reading, rfl, by simpa using isOpen, (Option.some.inj begun).symm⟩))
  · rename_i reading _
    obtain ⟨frames, operated, same⟩ := Option.map_eq_some_iff.mp taken
    exact .inr (.inr (.inr ⟨frames, reading, operated, same.symm⟩))

end SendingTransport

end GrpcCore.Transport
