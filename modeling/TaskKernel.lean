import TaskKernel.Main
import TaskKernel.Simulation.Crew
import TaskKernel.Simulation.Locking
import TaskKernel.Simulation.Service
import TaskKernel.Simulation.Taking
import TaskKernel.Simulation.Ticking
import TaskKernel.Simulation.Traffic
import TaskKernel.Simulation.Watching
import TaskKernel.Proofs.Queue.Lanes
import TaskKernel.Proofs.Queue.Sections
import TaskKernel.Proofs.Queue.Requests
import TaskKernel.Proofs.Queue.Accounting
import TaskKernel.Proofs.Queue.Answers
import TaskKernel.Proofs.Queue.Callers
import TaskKernel.Proofs.Queue.Waiting
import TaskKernel.Proofs.Queue.Outcomes
import TaskKernel.Proofs.Queue.Custody
import TaskKernel.Proofs.Task.Course
import TaskKernel.Proofs.Task.Steps
import TaskKernel.Proofs.Task.Moves
import TaskKernel.Proofs.Task.Mirror
import TaskKernel.Proofs.Task.Doing
import TaskKernel.Proofs.Task.Service
import TaskKernel.Proofs.Task.Exit
import TaskKernel.Proofs.Task.Progress
import TaskKernel.Proofs.Task.Quitting
import TaskKernel.Proofs.Task.Ledger
import TaskKernel.Proofs.Task.Delivery
import TaskKernel.Proofs.Timer.Counting
import TaskKernel.Proofs.Timer.Sweep
import TaskKernel.Proofs.Task.Timekeeping
import TaskKernel.Proofs.Task.Ticking
import TaskKernel.Proofs.Task.Sweeping
import TaskKernel.Proofs.Queue.Turns
import TaskKernel.Proofs.Task.Orders
import TaskKernel.Proofs.Task.Draining
import TaskKernel.Proofs.Task.Cancelling
import TaskKernel.Proofs.Thread.Guarding
import TaskKernel.Proofs.Thread.Owning
import TaskKernel.Proofs.Timer.Arming
import TaskKernel.Proofs.Task.Spacing
import TaskKernel.Proofs.Sync.Ownership
import TaskKernel.Proofs.Sync.Calls
import TaskKernel.Proofs.Sync.Takers
import TaskKernel.Proofs.Sync.Units
import TaskKernel.Proofs.Task.Joining
import TaskKernel.Proofs.Task.Party
import TaskKernel.Proofs.Task.Society
import TaskKernel.Proofs.Descent
import TaskKernel.Proofs.Task.Settling
import TaskKernel.Proofs.Sync.Solo
import TaskKernel.Proofs.Task.Making
import TaskKernel.Proofs.Demo.Beat
import TaskKernel.Proofs.Demo.Ticker
import TaskKernel.Proofs.Demo.Periodic
import TaskKernel.Proofs.Demo.Race
import TaskKernel.Proofs.Demo.Echoer
import TaskKernel.Proofs.Demo.Clients
import TaskKernel.Proofs.Demo.Echo
import TaskKernel.Proofs.Demo.Roster
import TaskKernel.Proofs.Demo.Replies
import TaskKernel.Proofs.Timer.Cancelling
import TaskKernel.Proofs.Task.Receiving
import TaskKernel.Proofs.Task.Rounds
import TaskKernel.Proofs.Queue.Sorting
import TaskKernel.Proofs.Task.Backlog
import TaskKernel.Proofs.Task.WorkedOff
import TaskKernel.Proofs.Time.Range
import TaskKernel.Proofs.Time.Difference
import TaskKernel.Proofs.Timer.Rounds
import TaskKernel.Proofs.Timer.Timetable
import TaskKernel.Proofs.Time.Clock
import TaskKernel.Proofs.Configuring
import TaskKernel.Proofs.Log.Filtering
import TaskKernel.Proofs.Sync.Polling
import TaskKernel.Proofs.Environment
import TaskKernel.Proofs.Overriding
import TaskKernel.Proofs.Log.Racing
import TaskKernel.Proofs.Task.Marking
