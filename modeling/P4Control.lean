import P4Control.Scenario.Run
import P4Control.Settings.File
import P4Control.Proofs.Parts
import P4Control.Proofs.Incident
import P4Control.Proofs.Ending
import P4Control.Proofs.Wiring
import P4Control.Proofs.Valid
import P4Control.Proofs.Course
import P4Control.Proofs.Calls
import P4Control.Proofs.Tasks
import P4Control.Proofs.Actions
import P4Control.Proofs.Standing
import P4Control.Proofs.Requests
import P4Control.Proofs.Moves
import P4Control.Proofs.Mastership
import P4Control.Proofs.Passage
import P4Control.Proofs.Lifecycle
import P4Control.Proofs.Agreement
import P4Control.Proofs.Settling
import P4Control.Proofs.Contest
import P4Control.Proofs.Verdict
import P4Control.Proofs.Attendance
import P4Control.Proofs.Running
import P4Control.Proofs.CallEffects
import P4Control.Proofs.Pending
import P4Control.Proofs.Deadlines
import P4Control.Proofs.Refusal
import P4Control.Proofs.Loops
import P4Control.Proofs.Opening
import P4Control.Proofs.Closing
import P4Control.Proofs.Usable
import P4Control.Proofs.Delivery
import P4Control.Proofs.Outbox
import P4Control.Proofs.Setback
import P4Control.Proofs.Aftermath
import P4Control.Proofs.Hearing
import P4Control.Proofs.Downlinks
import P4Control.Proofs.Intake
import P4Control.Proofs.Inbound
import P4Control.Proofs.Stores
import P4Control.Proofs.Changes
import P4Control.Proofs.Outcomes
import P4Control.Proofs.Authority
import P4Control.Proofs.Denial
import P4Control.Proofs.Masters
import P4Control.Proofs.Batches
import P4Control.Proofs.Chunks
import P4Control.Proofs.Cursors
import P4Control.Proofs.Snapshot
import P4Control.Proofs.Cookies
import P4Control.Proofs.Programs
import P4Control.Proofs.Spelling
import P4Control.Proofs.Layering
import P4Control.Proofs.Documents
import P4Control.Proofs.Saved
import P4Control.Proofs.Tidy
import P4Control.Proofs.Variables
import P4Control.Proofs.Line
import P4Control.Proofs.Turns
import P4Control.Proofs.Transitions
import P4Control.Proofs.Openers
import P4Control.Proofs.Partition
import P4Control.Proofs.PartyEffects
import P4Control.Proofs.PartyCalls
import P4Control.Proofs.Interleaving
import P4Control.Proofs.PartyActions
import P4Control.Proofs.PartySteps
import P4Control.Proofs.PartyReports
import P4Control.Proofs.Apart
import P4Control.Proofs.Uplinks
import P4Control.Proofs.Plumbing
import P4Control.Proofs.Sending
import P4Control.Proofs.Bids
import P4Control.Proofs.Election
import P4Control.Proofs.Holders
import P4Control.Proofs.Roster
import P4Control.Proofs.Enrolment
import P4Control.Proofs.Custody
import P4Control.Proofs.Departures
import P4Control.Proofs.Draining
import P4Control.Proofs.Farewell
import P4Control.Proofs.Audience
import P4Control.Proofs.Succession
import P4Control.Proofs.Submission
import P4Control.Proofs.Numbers
