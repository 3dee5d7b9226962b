import Crossroads.Config.Document
import Crossroads.Config.VariableFile
import Crossroads.Probe
import Crossroads.Proofs.Commands.Answers
import Crossroads.Proofs.Commands.Documents
import Crossroads.Proofs.Config.Agreement
import Crossroads.Proofs.Config.Delays
import Crossroads.Proofs.Config.Lookups
import Crossroads.Proofs.Counters.Agreement
import Crossroads.Proofs.Counters.Time
import Crossroads.Proofs.Counters.Window
import Crossroads.Proofs.Deadlock.Safety
import Crossroads.Proofs.Exclusion.Abandoned
import Crossroads.Proofs.Exclusion.Crew
import Crossroads.Proofs.Exclusion.Runs
import Crossroads.Proofs.Locks.AcquisitionOrder
import Crossroads.Proofs.Locks.WaitCycles
import Crossroads.Proofs.Policy.Contract
import Crossroads.Proofs.Quadrants.Atomicity
import Crossroads.Proofs.Quadrants.Availability
import Crossroads.Proofs.Quadrants.Contract
import Crossroads.Proofs.Quadrants.Releasing
import Crossroads.Proofs.Quadrants.Revalidation
import Crossroads.Proofs.Quadrants.SafetyCheck
import Crossroads.Proofs.Status.LastRead
import Crossroads.Proofs.Steps.Demotions
import Crossroads.Proofs.Steps.Draining
import Crossroads.Proofs.Steps.Quantum
import Crossroads.Proofs.Steps.ReadyView
import Crossroads.Proofs.Steps.SliceEffect
import Crossroads.Proofs.Traffic.Calls
import Crossroads.Proofs.Traffic.InStep
import Crossroads.Proofs.Traffic.PassedOver
import Crossroads.Proofs.WaitFor.LowestPair
import Crossroads.Proofs.WaitFor.Walk
import Crossroads.Session
