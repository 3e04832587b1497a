import Templating.Proofs.Chains
import Templating.Proofs.CleanValues
import Templating.Proofs.Moment
import Templating.Proofs.Written

/-!
# What is written is clean

With escaping on everywhere, nothing gets into the output that a reader of markup
could take for markup, unless template code or the host vouches for it.  Vouched
for are the texts that templates write as they stand, markup in literals and in
the variables a render starts from, and what filters make; all of these have to
be clean, and everything else may be arbitrary (`Vocabulary.clean`, `Hygienic`).

The states of such a render hold clean values only, wherever a value may be kept
(`State.Clean`).  So whatever it writes is clean, to whatever end it comes, and so
is what it captures on the way: the output of an imported template, which comes
back as a value that is not escaped again, and the part that is put through a
filter (`Moment.WritesClean`).
-/
namespace Templating

/-- The values, texts and code of clean templates: no text is vouched for without
being looked at, escaping is not turned off, and parts are put through filters
only that make markup of markup. -/
def Vocabulary.clean (config : Config) : Vocabulary where
  value := Value.Clean
  text text := Entity.Clean text.toList
  expr
    | .literal v => v.Clean
    | .unary op _ => op.trusts = false
    | _ => True
  stmt
    | .write text => Entity.Clean text.toList
    | .escaping enabled _ | .setEscaping enabled => enabled = true
    | .filterBlock filter _ _ => ∀ m arguments w,
      config.callFilter filter (.markup m) arguments = .ok w → ∃ m', w = .markup m'
    | _ => True

/-- What a host has to take care of: templates are clean, escaping is on in all of
them, and filters make clean values of clean ones. -/
structure Hygienic (config : Config) : Prop where
  escaping : ∀ name, config.autoescape.initial name = true
  loader : ∀ name t, config.loader name = .ok t → (Vocabulary.clean config).Template t
  filters : ∀ name v arguments w, v.Clean → (∀ a ∈ arguments, a.Clean) →
    config.callFilter name v arguments = .ok w → w.Clean

theorem Hygienic.closed {config : Config} (h : Hygienic config) :
    (Vocabulary.clean config).Closed config where
  bool _ := trivial
  list hitems := (Value.cleanAll_iff _).mpr hitems
  loop _ _ := trivial
  module hexports hbody := ⟨(Value.cleanEntries_iff _).mpr hexports, hbody⟩
  literal {v} hv next := Value.Clean.renew v next hv
  unary hop hv autoescape := UnaryOp.clean_apply hop autoescape hv
  binary {op _ w} hv _ := BinaryOp.clean_apply op hv w
  attr hv name := hv.attr name
  call _ harguments hcall := Value.Clean.callMethod harguments hcall
  filter hv harguments hcall := h.filters _ _ _ _ hv harguments hcall
  items hv hitems := hv.itemsOf hitems
  parts hv binding := Value.Clean.unpack config.unpacking binding hv
  write htext := htext
  filterBlock {filter _ _ captured arguments w} hfilter hcaptured harguments hcall := by
    -- The filter makes markup of the captured text, and so what it makes is clean as it is.
    obtain ⟨m, rfl⟩ := hfilter ⟨captured⟩ arguments w hcall
    exact h.filters _ (.markup ⟨captured⟩) arguments _ hcaptured harguments hcall

/-- A session in which clean templates may be rendered. -/
structure Session.Clean (config : Config) (s : Session) : Prop where
  escaping : s.autoescape = true
  exports : ∀ entry ∈ s.exports.entries, entry.2.Clean
  blocks : ∀ name, ∀ body ∈ s.blocks.chain name, (Vocabulary.clean config).Code body
  cache : ∀ name t, s.cache.get? name = some t → (Vocabulary.clean config).Template t

/-- All values in the state are clean. -/
structure State.Clean (config : Config) (s : State) : Prop where
  session : s.session.Clean config
  scope : ∀ name v, s.scope.get? name = some v → v.Clean

/-- Only clean chunks were written between two states. -/
def State.WroteClean (s t : State) : Prop :=
  ∃ chunks, (∀ chunk ∈ chunks, Entity.Clean chunk.toList) ∧ s.Wrote chunks t

theorem State.WroteClean.nothing {s t : State} (h : s.Wrote [] t) : s.WroteClean t :=
  ⟨[], fun _ h => absurd h List.not_mem_nil, h⟩

/-- The course of a render of clean templates. -/
def Course.clean (config : Config) : Course where
  Inv s := s.Clean config
  To s t := t.Clean config ∧ s.WroteClean t
  refl {s} hs := ⟨hs, .nothing (.refl s)⟩
  trans h h' := by
    obtain ⟨-, first, hfirst, hwrote⟩ := h
    obtain ⟨hu, second, hsecond, hwrote'⟩ := h'
    refine ⟨hu, first ++ second, fun chunk hchunk => ?_, hwrote.trans hwrote'⟩
    rcases List.mem_append.mp hchunk with hchunk | hchunk
    · exact hfirst chunk hchunk
    · exact hsecond chunk hchunk
  inv _ h := h.1

/-! ## The step lemma -/

theorem State.Clean.bound {config : Config} {s : State} (hs : s.Clean config)
    {bindings : List (String × Value)} (hbindings : ∀ entry ∈ bindings, entry.2.Clean)
    (name : String) (v : Value) (h : (s.scope.bind bindings).get? name = some v) : v.Clean := by
  rw [Scope.get?_bind] at h
  cases hnew : (Table.ofList bindings).get? name with
  | none =>
    rw [hnew, Option.none_or] at h
    exact hs.scope name v h
  | some w =>
    rw [hnew, Option.some_or] at h
    cases h
    exact Table.forall_mem_ofList hbindings _ (Table.mem_entries_of_get? hnew)

theorem Session.Clean.exportVar {config : Config} {s : Session} (hs : s.Clean config) {v : Value}
    (hv : v.Clean) (name : String) : (s.exportVar name v).Clean config :=
  { hs with
    exports := fun entry hentry => by
      rcases Table.mem_entries_insert hentry with heq | hold
      · exact heq ▸ hv
      · exact hs.exports entry hold }

section
variable {config : Config}

theorem Session.clean_derive (h : Hygienic config) {s : Session} (hs : s.Clean config)
    (name : String) (reach : Reach) : (s.derive config name reach).Clean config where
  escaping := h.escaping (some name)
  exports _ hentry := absurd hentry List.not_mem_nil
  blocks b body hbody := by
    cases reach with
    | extending => exact hs.blocks b body hbody
    | including | importing => exact absurd hbody List.not_mem_nil
  cache := hs.cache

theorem Session.clean_rejoin {s t : Session} (hs : s.Clean config) (ht : t.Clean config)
    (reach : Reach) : (s.rejoin reach t).Clean config where
  escaping := hs.escaping
  exports := hs.exports
  blocks b body hbody := by
    cases reach with
    | extending => exact ht.blocks b body hbody
    | including | importing => exact hs.blocks b body hbody
  cache := ht.cache

/-- Every elementary change of the state keeps it clean, and writes clean text. -/
theorem sound_clean (h : Hygienic config) :
    (Course.clean config).Sound (Vocabulary.clean config) config where
  looked {s} hs name := by
    show (s.scope.lookup name).Clean
    rw [Scope.lookup]
    cases hget : s.scope.get? name with
    | none => trivial
    | some v => exact hs.scope name v hget
  exported hs entry hentry := hs.session.exports entry hentry
  defined hs _ _ body hbody := hs.session.blocks _ body (BlockRegistry.mem_chain_of_resolve hbody)
  cached hs name t ht := hs.session.cache name t ht
  loaded ht := h.loader _ _ ht
  remember {s} hs name t _ ht := by
    have hsession : (s.remember name t).session.Clean config :=
      { hs.session with
        cache := Table.forall_get?_insert hs.session.cache (h.loader name t ht) }
    exact ⟨⟨hsession, hs.scope⟩, .nothing (.nothing rfl rfl)⟩
  note {s} hs e he := ⟨⟨hs.session, hs.scope⟩, .nothing (.logged s he)⟩
  write {s} hs text htext := by
    rcases write_cases text s with ⟨sink, log, hwrote, hrun⟩ | ⟨-, hrun⟩
    · rw [hrun]
      refine ⟨⟨hs.session, hs.scope⟩, [text], fun chunk hchunk => ?_, hwrote⟩
      rw [List.mem_singleton] at hchunk
      exact hchunk ▸ htext
    · -- There is no room, and nothing is written.
      rw [hrun]
      exact (Course.clean config).refl hs
  emitted {s} hs v hv := by
    rw [hs.session.escaping]
    exact hv.finalize
  count {s} hs next := ⟨⟨hs.session, hs.scope⟩, .nothing (.nothing rfl rfl)⟩
  assign {s} hs v hv name := by
    have hbinding : ∀ entry ∈ [(name, v)], entry.2.Clean := by
      intro entry hentry
      rw [List.mem_singleton] at hentry
      exact hentry ▸ hv
    have hbound := hs.bound hbinding
    unfold State.assign
    split
    · exact ⟨⟨hs.session.exportVar hv name, hbound⟩, .nothing (.nothing rfl rfl)⟩
    · exact ⟨⟨hs.session, hbound⟩, .nothing (.nothing rfl rfl)⟩
  exportVar {s} hs v hv name :=
    ⟨⟨hs.session.exportVar hv name, hs.scope⟩, .nothing (.nothing rfl rfl)⟩
  setEscaping {s} hs enabled henabled :=
    ⟨⟨{ hs.session with escaping := henabled }, hs.scope⟩, .nothing (.nothing rfl rfl)⟩
  register {s} hs body hbody name := by
    have hsession : (s.register name body).session.Clean config :=
      { hs.session with
        blocks := BlockRegistry.forall_mem_chain_register hs.session.blocks hbody }
    exact ⟨⟨hsession, hs.scope⟩, .nothing (.nothing rfl rfl)⟩
  rebind {s₀ s} hs₀ hs bindings hbindings :=
    ⟨⟨hs.session, hs₀.bound hbindings⟩, .nothing (.nothing rfl rfl)⟩
  frame s hs := ⟨⟨hs.session, hs.scope⟩, fun t ht => ⟨⟨ht.1.session, hs.scope⟩, ht.2⟩⟩
  escaping {enabled _} henabled s hs := by
    refine ⟨⟨{ hs.session with escaping := henabled }, hs.scope⟩, fun t ht => ⟨?_, ht.2⟩⟩
    exact ⟨{ ht.1.session with escaping := hs.session.escaping }, ht.1.scope⟩
  block _ s hs := ⟨⟨hs.session, hs.scope⟩, fun t ht => ⟨⟨ht.1.session, hs.scope⟩, ht.2⟩⟩
  template name reach s hs :=
    ⟨⟨Session.clean_derive h hs.session name reach, hs.scope⟩,
      fun t ht => ⟨⟨Session.clean_rejoin hs.session ht.1.session reach, hs.scope⟩, ht.2⟩⟩
  capture s hs := by
    refine ⟨⟨hs.session, hs.scope⟩, fun t ht => ⟨⟨ht.1.session, ht.1.scope⟩, ?_⟩⟩
    -- Whatever was captured, the sink from before has seen none of it.
    obtain ⟨-, chunks, -, hwrote⟩ := ht
    exact .nothing hwrote.leaveCapture
  captured {s} hs t ht := by
    obtain ⟨-, chunks, hclean, hwrote⟩ := ht
    show Entity.Clean t.captured.toList
    rw [hwrote.captured]
    exact Entity.clean_join hclean

/-! ## Whole renders -/

/-- What the code of a moment writes is clean, and so is what it makes of written
text: modules, and parts that are put through a filter. -/
structure Moment.WritesClean (config : Config) (m : Moment) : Prop where
  values : m.state.Clean config
  chunks : m.state.WroteClean (m.ended config)
  modules : ∀ {name resolved exports body},
    (Render.importTemplate config (invoke config m.depth) name m.state).1 =
      .done (.module resolved exports body) → Entity.Clean body.toList
  captured : ∀ {loop filter arguments body rest given t text},
    m.task = .code loop (.filterBlock filter arguments body :: rest) →
    Expr.evalAll config (invoke config m.depth) arguments m.state = (.done given, t) →
    (Render.withFrame (Render.capture
      (asWhole (Stmt.execAll config (invoke config m.depth) none body))) t).1 = .done text →
    Entity.Clean text.toList

theorem Moment.Holds.writesClean (h : Hygienic config) {m : Moment}
    (hm : m.Holds (Course.clean config) (Vocabulary.clean config)) : m.WritesClean config := by
  have hC := sound_clean h
  have hV := h.closed
  have hruns := hC.pairing.runs hV m.depth
  refine ⟨hm.state, ?_, ?_, ?_⟩
  · have htask := hm.task
    unfold Moment.ended
    cases htask' : m.task with
    | code loop body =>
      rw [htask'] at htask
      exact (Course.of_alike (hC.execAll hV htask m.depth loop) hm.state).1.2
    | operands xs =>
      rw [htask'] at htask
      exact (Course.of_alike (hC.evalAll hV htask m.depth) hm.state).1.2
  · intro name resolved exports body hrun
    have hmodule := (Course.of_alike (hC.pairing.importTemplate hruns hV name) hm.state).2 _ hrun
    exact hmodule.2
  · intro loop filter arguments body rest given t text htask hgiven hrun
    have hcode : (Vocabulary.clean config).Code (.filterBlock filter arguments body :: rest) := by
      have htask' := hm.task
      rwa [htask] at htask'
    obtain ⟨⟨-, harguments, hbody⟩, -⟩ := hcode
    obtain ⟨hto, -⟩ := Course.done_of_alike (hC.evalAll hV harguments m.depth) hm.state hgiven
    have hcapture := hC.pairing.withFrame (hC.pairing.captureText (Pairing.Sound.asWhole
      (hC.execAll hV hbody m.depth none)))
    exact (Course.of_alike hcapture hto.1).2 text hrun

/-- A new session is clean. -/
theorem Session.clean_start (h : Hygienic config) (name : Option String) :
    (Session.start config name).Clean config where
  escaping := h.escaping name
  exports _ hentry := absurd hentry List.not_mem_nil
  blocks _ _ hbody := absurd hbody List.not_mem_nil
  cache _ _ ht := by cases ht

/-- The law of escaping: the render of a clean template with clean variables writes
clean text only, at every moment and to whatever end it comes, and leaves its
session clean. -/
theorem render_writesClean (h : Hygienic config) {t : Template}
    (ht : (Vocabulary.clean config).Template t) {context : Context}
    (hcontext : ∀ name v, context.get? name = some v → v.Clean) {session : Session}
    (hsession : session.Clean config) (depth : Nat) (sink : Sink) (world : World) :
    let begun := State.begin config t context sink (some session) world
    let ended := (config.evaluateTemplate depth t context sink (some session) world).2
    begun.WroteClean ended ∧ ended.session.Clean config ∧
      ∀ m m', Moment.Starts config depth t begun m → Moment.Later config m m' →
        m'.WritesClean config := by
  intro begun ended
  have hC := sound_clean h
  have hV := h.closed
  have hbegun : begun.Clean config := ⟨hsession, hcontext⟩
  have hended : (Course.clean config).To begun ended := hC.evaluateTemplate hV ht depth hbegun
  refine ⟨hended.2, hended.1.session, fun m m' hstart hlater => ?_⟩
  exact (hC.later hV (hC.starts hV hbegun ht hstart) hlater).writesClean h

end

/-! ## A name with markup in it -/

namespace Card

def card : Template :=
  Template.build "card" (some [.write "Name: ", .emit (.var "name")]) none []

def config : Config := { Config.basic with autoescape := .always true }

theorem hygienic : Hygienic config where
  escaping _ := rfl
  loader _ _ ht := by cases ht
  filters _ _ _ _ _ _ hcall := by cases hcall

theorem clean_card : (Vocabulary.clean config).Template card where
  root := ⟨Entity.clean_encode "Name: ".toList, ⟨trivial, trivial⟩, trivial⟩
  setup _ hsetup := by cases hsetup
  blocks _ hentry := absurd hentry List.not_mem_nil

/-- The markup in the name does not get through. -/
theorem render_card :
    let ended := (config.evaluateTemplate 1 card (Table.ofList [("name", .text "<b>")])
      (.stream none) (some (Session.start config none)) (World.begin 0)).2
    ended.world.chunks = ["Name: ", "&lt;b&gt;"] ∧
      ∀ chunk ∈ ended.world.chunks, Entity.Clean chunk.toList := by
  have hcontext (name : String) (v : Value)
      (h : (Table.ofList [("name", Value.text "<b>")]).get? name = some v) : v.Clean := by
    cases List.mem_singleton.mp (Table.mem_entries_of_get? h)
    trivial
  obtain ⟨⟨chunks, hclean, hwrote⟩, -⟩ := render_writesClean hygienic clean_card hcontext
    (Session.clean_start hygienic none) 1 (.stream none) (World.begin 0)
  refine ⟨rfl, ?_⟩
  rw [hwrote.log]
  exact hclean

end Card

end Templating
