import HostReadiness.Proofs.Check.Faults

/-! The speed file of a device, for templates of any literal text with the device in any places. The
name of the device is put in as it is, and the path that comes of it is the one that is opened and the
one that is reported. -/

namespace HostReadiness

namespace LinkSpeed
open Template

/-- Judging a speed fails on numbers only. -/
theorem isNumeric_of_verdict {t : Thresholds} {device : String} {mbps : Int} {fault : Fault}
    (failed : verdict t device mbps = .error fault) : fault.isNumeric = true := by
  unfold verdict at failed
  rcases error_of_bind failed with outOfRange | ⟨gbps, -, failed⟩
  · exact Fault.isNumeric_of_ofRange outOfRange
  rcases error_of_bind failed with outOfRange | ⟨tier, -, failed⟩
  · exact Fault.isNumeric_of_ofRange outOfRange
  cases tier with
  | none => cases failed
  | some tier => exact Fault.isNumeric_of_ofDigits failed

/-- How the check can fail once the speed file has a path. -/
theorem fault_of_probe {setup : Setup} {site : Site} {device path : String} {fault : Fault}
    (named : LinkSpeed.path setup.locations device = .ok path)
    (fails : ((probe setup device).run site).outcome = .error fault) :
    fault.isOfUtility = true ∨ fault.isNumeric = true ∨ ∃ mbps, fault = .noLinkSpeed path mbps := by
  rw [outcome_probe_of_path named, judgedCount] at fails
  rcases error_of_bind fails with unread | ⟨content, -, fails⟩
  · exact .inl (Host.isOfUtility_of_readWhole unread)
  rcases error_of_bind fails with tooLong | ⟨mbps, -, fails⟩
  · exact .inr (.inl (Fault.isNumeric_of_ofDigits tooLong))
  unfold judged at fails
  split_ifs at fails with silent
  · exact .inr (.inr ⟨mbps, (Except.error.inj fails).symm⟩)
  · exact .inr (.inl (isNumeric_of_verdict fails))

structure Substitutes (setup : Setup) (device path : String) (site : Site) (run : Run String) :
    Prop where
  named : LinkSpeed.path setup.locations device = .ok path
  expanded : ∀ fault, run.outcome ≠ .error (.template fault)
  opens : run.journal.trace = [.file path]
  noSpeed : ∀ content mbps, site.host.readWhole path = .ok content →
    Reading.count content.toList = .ok mbps → mbps < 1 →
    run.outcome = .error (.noLinkSpeed path mbps)
  reported : ∀ other mbps, run.outcome = .error (.noLinkSpeed other mbps) → other = path

/-- The speed file of a device is found by substitution alone, whatever is in the device's name. -/
theorem probe_substitutes (pieces : List Piece) (device : String) (locations : Locations)
    (requirements : Requirements) (site : Site) :
    let setup : Setup :=
      ⟨{ locations with linkSpeed := String.ofList (pieces.flatMap Piece.template) }, requirements⟩
    Substitutes setup device (String.ofList (pieces.flatMap (Piece.filled device.toList))) site
      ((probe setup device).run site) := by
  intro setup
  have named : LinkSpeed.path setup.locations device =
      .ok (String.ofList (pieces.flatMap (Piece.filled device.toList))) :=
    path_pieces String.toList_ofList device
  generalize String.ofList (pieces.flatMap (Piece.filled device.toList)) = path at named ⊢
  exact {
    named := named
    expanded := by
      intro fault fails
      rcases fault_of_probe named fails with utility | numeric | ⟨mbps, silent⟩
      · cases utility
      · cases numeric
      · cases silent
    opens := by
      rw [Probe.trace_run, questions_probe, named]
      rfl
    noSpeed := by
      intro content mbps read counted silent
      rw [outcome_probe_of_path named, judgedCount, read]
      change (Fault.ofDigits (Reading.count content.toList)).bind _ = _
      rw [counted, Fault.bind_ofDigits_ok, judged, if_pos silent]
    reported := by
      intro other mbps fails
      rcases fault_of_probe named fails with utility | numeric | ⟨found, silent⟩
      · cases utility
      · cases numeric
      · exact (Fault.noLinkSpeed.inj silent).1 }

end LinkSpeed

end HostReadiness
