import ServiceBus.Radio.Manager
import ServiceBus.Stats.Log
import ServiceBus.Proofs.Call.Transparency
import ServiceBus.Proofs.Radio.Translation
import ServiceBus.Proofs.Radio.Renewal
import ServiceBus.Proofs.Wire.Reading
import ServiceBus.Proofs.Parcel.Reading
import ServiceBus.Proofs.Call.Dispatch
import ServiceBus.Proofs.Radio.Lifecycle
import ServiceBus.Proofs.Call.Faults
import ServiceBus.Proofs.Radio.Garbage
import ServiceBus.Proofs.Stats.Delivery
import ServiceBus.Proofs.Stats.Telemetry
import ServiceBus.Proofs.Call.Chain
import ServiceBus.Proofs.Call.Footprint
import ServiceBus.Proofs.Handle.Reconnection
import ServiceBus.Proofs.Registry.Living
import ServiceBus.Proofs.Registry.Refinement
import ServiceBus.Proofs.Parcel.Safety
import ServiceBus.Proofs.Parcel.Truncation
import ServiceBus.Proofs.Radio.Death
import ServiceBus.Proofs.Call.Sessions
import ServiceBus.Proofs.Handle.Generations
import ServiceBus.Proofs.Radio.Aftermath
import ServiceBus.Proofs.Radio.Station
import ServiceBus.Proofs.Radio.Tuning
import ServiceBus.Proofs.Call.Handover
import ServiceBus.Proofs.Call.Passage
import ServiceBus.Proofs.Radio.Limits
import ServiceBus.Proofs.Radio.Inference
import ServiceBus.Proofs.Status.Consistency
import ServiceBus.Proofs.Parcel.Maps
import ServiceBus.Proofs.Parcel.Amplification
import ServiceBus.Proofs.Parcel.Continuation
