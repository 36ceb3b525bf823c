import TestSystem.PpmGenerator.Pending
import TestSystem.PpmGenerator.Waveform
import TestSystem.PpmGenerator.Period
import TestSystem.PpmGenerator.Failures
import TestSystem.PpmGenerator.Budget
import TestSystem.PpmGenerator.Init
import TestSystem.RemoteControl.Freshness
import TestSystem.RemoteControl.Pulses
import TestSystem.RemoteControl.Overflow
import TestSystem.RemoteControl.Setup
import TestSystem.LinuxClient.LifeCycle
import TestSystem.LinuxClient.Dispatch
import TestSystem.LinuxClient.Bootloader
import TestSystem.CanTest.Reports
import TestSystem.CanTest.Names
import TestSystem.PhyTest.Answers
import TestSystem.SpeedTest.WakeUps
import TestSystem.SpeedTest.Interrupts
import TestSystem.SpeedTest.Passes
import TestSystem.SpeedTest.Table
import TestSystem.SpiTest.Command
import TestSystem.SpiTest.ChipSelect
import TestSystem.TimerTest.Capture
import TestSystem.Console.Write
import TestSystem.Port.Resume
import TestSystem.Port.Critical
import TestSystem.Port.Priority
import TestSystem.Port.Tickless
import TestSystem.CanTest.Echo
import TestSystem.PwmTest.Capture
import TestSystem.TimerTest.Colours
import TestSystem.RemoteControl.Rows
import TestSystem.FlexCan.Network
import TestSystem.SdTest.Content
import TestSystem.BufferTest.SelfTest
