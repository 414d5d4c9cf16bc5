import ActivityMatrix.Proofs.Synthesis.Repairs
import ActivityMatrix.Proofs.Synthesis.Rewiring

/-!
# Cleanup repairs every gateway

A cleanup of a sound graph leaves no gateway that needs a repair, changes nothing but the graph,
keeps all paths between the nodes that are no gateways, makes none between activities, and lets no
flows come together on the way to an activity where none did before (`yields_cleanup_repairs`). A
sound graph is workable, so what the repairs do to it is known; left to show is what the events and
the activities have of it. A new gateway is put where flows ran across already, and a gateway that is
taken out is no event and no activity.
-/

namespace ActivityMatrix

namespace Drafting

open ProcessGraph ActivityMatrix.Digraph

variable {names : List String} {d d' : Draft} {node : Node}

/-! ## What a repair keeps -/

/-- A step changed nothing but the graph, which stays sound, keeps its paths between the nodes that
are no gateways, gets no new ones between activities, brings nothing together on the way to one, and stays
rooted or connected if it is. -/
structure Repairs (names : List String) (d d' : Draft) : Prop where
  rest : d' = { d with graph := d'.graph, additions := d'.additions }
  sound : d'.graph.Sound names
  paths : KeepsPaths (startEventId :: endEventId :: names) d.graph d'.graph
  faithful : KeepsPaths names d'.graph d.graph
  unjoined : ∀ b ∈ names, Unjoined d.graph.flows b → Unjoined d'.graph.flows b
  rooted : d.graph.Rooted [] → d'.graph.Rooted []
  connected : d.graph.Connected → d'.graph.Connected

theorem Repairs.refl (h : d.graph.Sound names) : Repairs names d d :=
  ⟨rfl, h, .refl _ _, .refl _ _, fun _ _ => id, id, id⟩

theorem Repairs.trans {d'' : Draft} (h : Repairs names d d') (h' : Repairs names d' d'') :
    Repairs names d d'' where
  rest := by rw [h'.rest, h.rest]
  sound := h'.sound
  paths := h.paths.trans h'.paths
  faithful := h'.faithful.trans h.faithful
  unjoined b hb := h'.unjoined b hb ∘ h.unjoined b hb
  rooted := h'.rooted ∘ h.rooted
  connected := h'.connected ∘ h.connected

/-- A new gateway between sources and targets that flow into each other leaves the graph sound. -/
theorem Inserts.sound {sources targets : List String} (h : Inserts node sources targets d d')
    (hd : d.graph.Sound names) (hfits : node.Fits names) (hsources : sources ≠ []) (htargets : targets ≠ [])
    (hacross : ∀ s ∈ sources, ∀ t ∈ targets, (s, t) ∈ d.graph.flows) : d'.graph.Sound names := by
  obtain ⟨s, hs⟩ := List.exists_mem_of_ne_nil sources hsources
  obtain ⟨t, ht⟩ := List.exists_mem_of_ne_nil targets htargets
  have hevent : ∀ id ∈ startEventId :: endEventId :: names, id ≠ node.id :=
    fun id hid heq => h.fresh (heq ▸ hd.known id hid)
  refine h.workable.sound (h.checks.trans hd.checked) (fun other hother => ?_)
    (fun id hid => h.rerouted.mem_ids.mpr (.inl (hd.known id hid))) (fun a hflow => ?_) (fun b hflow => ?_)
    hd.start_notMem hd.end_notMem
  · rw [h.rerouted.nodes] at hother
    rcases List.mem_append.mp hother with hother | hother
    · exact hd.fits other hother
    · exact List.mem_singleton.mp hother ▸ hfits
  · rcases (h.rerouted.detour a startEventId).mp hflow with hold | ⟨-, heq⟩ | ⟨-, htarget⟩
    · exact hd.into_start a hold.1
    · exact hevent startEventId (.head _) heq
    · exact hd.into_start s (hacross s hs _ htarget)
  · rcases (h.rerouted.detour endEventId b).mp hflow with hold | ⟨hsource, -⟩ | ⟨heq, -⟩
    · exact hd.out_of_end b hold.1
    · exact hd.out_of_end t (hacross _ hsource t ht)
    · exact hevent endEventId (.tail _ (.head _)) heq

/-- Where the sources flow into the targets already, flows may be led through a new gateway. -/
theorem Inserts.repairs {sources targets : List String}
    (h : Inserts node sources targets d d') (hd : d.graph.Sound names) (hfits : node.Fits names)
    (hsources : sources ≠ []) (htargets : targets ≠ [])
    (hacross : ∀ s ∈ sources, ∀ t ∈ targets, (s, t) ∈ d.graph.flows) : Repairs names d d' where
  rest := h.rest
  sound := h.sound hd hfits hsources htargets hacross
  paths _ _ _ _ hab := h.rerouted.leads hab
  faithful a ha b hb hab :=
    (h.leads_iff hd.workable hacross (hd.known a (by simp [ha])) (hd.known b (by simp [hb]))).mp hab
  unjoined b hb hold := by
    obtain ⟨s, hs⟩ := List.exists_mem_of_ne_nil sources hsources
    have hvia : node.id ∉ targets := fun ht => h.fresh (hd.target_mem (hacross s hs _ ht))
    have hname : b ≠ node.id := fun heq => h.fresh (heq ▸ hd.known b (by simp [hb]))
    exact h.rerouted.detour.unjoined (hd.ends_ne_of_fresh h.fresh) hvia hname
      (fun s hs t ht _ => hacross s hs t ht) hsources hold
  rooted hrooted := by
    refine h.rerouted.rooted hrooted (fun s hs => ?_) fun _ => hsources
    obtain ⟨t, ht⟩ := List.exists_mem_of_ne_nil _ htargets
    exact hrooted (hacross s hs t ht)
  connected hconnected := h.rerouted.connected hconnected hsources htargets

/-- A split with several flows in gets a join in front of it. -/
theorem repairs_of_joinBefore {kind : GatewayKind} {join : String} (hd : d.graph.Sound names)
    (hin : 1 < (d.graph.incoming node.id).length)
    (h : Inserts (gatewayNode kind joinRole join) (d.graph.incoming node.id) [node.id] d d') :
    Repairs names d d' :=
  h.repairs hd (fits_gatewayNode hd h.fresh (.inr rfl)) (List.ne_nil_of_length_pos (by omega))
    (List.cons_ne_nil _ _) fun _ hs _ ht => List.mem_singleton.mp ht ▸ mem_incoming.mp hs

/-- A join with several flows out gets a split behind it. -/
theorem repairs_of_splitAfter {kind : GatewayKind} {split : String} (hd : d.graph.Sound names)
    (hout : 1 < (d.graph.outgoing node.id).length)
    (h : Inserts (gatewayNode kind splitRole split) [node.id] (d.graph.outgoing node.id) d d') :
    Repairs names d d' :=
  h.repairs hd (fits_gatewayNode hd h.fresh (.inl rfl)) (List.cons_ne_nil _ _)
    (List.ne_nil_of_length_pos (by omega)) fun _ hs _ ht => List.mem_singleton.mp hs ▸ mem_outgoing.mp ht

/-- A node that was entered through a gateway is entered from what entered the gateway. -/
theorem rooted_of_isBypass {g g' : ProcessGraph} {via : String} (h : g.Sound names)
    (hvia : via ≠ startEventId) (hbypass : IsBypass g.flows g'.flows via) (hg : g.Rooted []) :
    g'.Rooted [] := by
  have hfed : ∀ {u v}, (u, v) ∈ g.flows → u ≠ via → g'.Fed [] u := by
    intro u v hflow hne
    rcases (hg hflow).resolve_left List.not_mem_nil with hstart | ⟨w, hw⟩
    · exact .inr (.inl hstart)
    · refine .inr (.inr ?_)
      by_cases hthrough : w = via
      · subst hthrough
        rcases (hg hw).resolve_left List.not_mem_nil with hstart | ⟨w', hw'⟩
        · exact absurd hstart hvia
        · exact ⟨w', (hbypass w' u).mpr (.inr ⟨hw', hw⟩)⟩
      · exact ⟨w, (hbypass w u).mpr (.inl ⟨hw, hthrough, hne⟩)⟩
  intro u v hflow
  rcases (hbypass u v).mp hflow with ⟨hold, hne, -⟩ | ⟨hin, -⟩
  · exact hfed hold hne
  · exact hfed hin (h.ne_of_mem hin)

/-- Without a gateway the graph stays sound. -/
theorem TakesOut.sound (h : TakesOut node.id d d') (hd : d.graph.Sound names)
    (hgate : node.id ∉ startEventId :: endEventId :: names) : d'.graph.Sound names := by
  refine h.workable.sound (h.checks.trans hd.checked) (fun other hother => ?_) (fun id hid => ?_)
    (fun a hflow => ?_) (fun b hflow => ?_) hd.start_notMem hd.end_notMem
  · rw [h.nodes] at hother
    exact hd.fits other (List.mem_of_mem_filter hother)
  · exact h.mem_ids.mpr ⟨hd.known id hid, fun heq => hgate (heq ▸ hid)⟩
  · rcases (h.bypass a startEventId).mp hflow with ⟨hold, -⟩ | ⟨-, hold⟩
    · exact hd.into_start a hold
    · exact hd.into_start _ hold
  · rcases (h.bypass endEventId b).mp hflow with ⟨hold, -⟩ | ⟨hold, -⟩
    · exact hd.out_of_end b hold
    · exact hd.out_of_end _ hold

/-- A bypass keeps paths and connections. -/
theorem TakesOut.repairs (h : TakesOut node.id d d') (hd : d.graph.Sound names)
    (hnode : node ∈ d.graph.nodes) (hgateway : node.isGateway = true) : Repairs names d d' := by
  have hgate := (hd.fits node hnode).isGateway_iff.mp hgateway
  have hmem : node.id ∈ d.graph.ids := mem_ids_of_mem hnode
  refine ⟨h.rest, h.sound hd hgate, ?_, fun a _ b _ => h.bypass.leads_of_leads,
    fun _ _ => h.bypass.unjoined,
    rooted_of_isBypass hd (fun heq => hgate (by simp [heq])) h.bypass,
    fun hconnected => ⟨fun id hid hstart => ?_, fun id hid hend => ?_⟩⟩
  · intro a ha b hb hab
    exact h.bypass.leads (fun heq => hgate (heq ▸ ha)) (fun heq => hgate (heq ▸ hb)) hab
  · obtain ⟨hid, hne⟩ := h.mem_ids.mp hid
    obtain ⟨a, ha⟩ := hconnected.entered id hid hstart
    -- a node that was entered from the gateway is entered from what entered the gateway
    by_cases hvia : a = node.id
    · obtain ⟨c, hc⟩ := hconnected.entered node.id hmem fun heq => hgate (by simp [heq])
      exact ⟨c, (h.bypass c id).mpr (.inr ⟨hc, hvia ▸ ha⟩)⟩
    · exact ⟨a, (h.bypass a id).mpr (.inl ⟨ha, hvia, hne⟩)⟩
  · obtain ⟨hid, hne⟩ := h.mem_ids.mp hid
    obtain ⟨b, hb⟩ := hconnected.left id hid hend
    by_cases hvia : b = node.id
    · obtain ⟨c, hc⟩ := hconnected.left node.id hmem fun heq => hgate (by simp [heq])
      exact ⟨c, (h.bypass id c).mpr (.inr ⟨hvia ▸ hb, hc⟩)⟩
    · exact ⟨b, (h.bypass id b).mpr (.inl ⟨hb, hne, hvia⟩)⟩

/-! ## Whole cleanups -/

/-- Whatever the repair does, it is one of those above. -/
theorem repairs_of_carriedOut {repair : GatewayRepair} (h : d.graph.Sound names)
    (hcarried : CarriedOut d d' repair) : Repairs names d d' := by
  cases hcarried with
  | joinBefore _ _ _ _ hin hinserts => exact repairs_of_joinBefore h hin hinserts
  | splitAfter _ _ _ _ hout hinserts => exact repairs_of_splitAfter h hout hinserts
  | bypass hnode hgateway _ _ htaken => exact htaken.repairs h hnode hgateway

theorem RepairedBy.repairs {repairs : List GatewayRepair} (h : RepairedBy d repairs d')
    (hd : d.graph.Sound names) : Repairs names d d' := by
  induction h with
  | done => exact .refl hd
  | step hdue hrun _ ih =>
      have hfirst := repairs_of_carriedOut hd ((yields_carryOut hd.workable hdue).of_run hrun)
      exact hfirst.trans (ih hfirst.sound)

/-- A cleanup repairs all gateways. -/
theorem yields_cleanup_repairs (h : d.graph.Sound names) :
    Yields cleanup d fun _ d' => Repairs names d d' ∧ d'.graph.nextRepair? = none := by
  refine (yields_cleanup h.workable).mono fun _ d' hd' => ?_
  obtain ⟨repairs, hrepaired, -⟩ := hd'
  exact ⟨hrepaired.repairs h, hrepaired.nextRepair?_eq_none⟩

end Drafting

end ActivityMatrix
